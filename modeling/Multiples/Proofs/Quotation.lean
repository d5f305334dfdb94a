import Multiples.Proofs.Search
import Multiples.Text.Hex
import Multiples.Text.Quoted

/-!
# What stands between quotes

A text may hold quotes, backslashes, escapes and characters without a printed form, and none of it is mistaken for
anything else once it is quoted: each character is written in a way that no other one begins with, and the closing
quote is no such way.

* `Text.Written` — the three ways to write a character, and `Text.written_quotedChar` — each is written in one of
  them;
* `Text.Written.inj` — what is written tells the character, **whatever follows it**;
* `Text.quoted_append_inj` — so a quoted text, in front of anything, tells its text and where it ends;
* `Text.mem_quoted` — the characters there are between quotes: visible ASCII, and those that show themselves.
-/

namespace Multiples

namespace Text

/-! ### Ways to write a character -/

/-- The characters that have a letter of their own after a backslash. -/
def letters : List (Char × Char) :=
  [('\x00', '0'), ('\t', 't'), ('\r', 'r'), ('\n', 'n'), ('"', '"'), ('\\', '\\')]

/-- How a character is written between quotes: by its letter, as itself, or by its code point. -/
inductive Written (c : Char) : Text → Prop
  | letter {l : Char} (hletter : (c, l) ∈ letters) : Written c ['\\', l]
  | itself (hquote : c ≠ '"') (hslash : c ≠ '\\') (hshows : showsAsIs c = true) : Written c [c]
  | codePoint : Written c (codePointEscape c)

theorem written_quotedChar (c : Char) : Written c (quotedChar c) := by
  unfold quotedChar
  -- the six characters with a letter, in the order in which they are looked for
  iterate 6
    split
    · rename_i h
      subst h
      exact .letter (by decide)
  rename_i hquote hslash
  split
  · rename_i hshows
    exact .itself hquote hslash hshows
  · exact .codePoint

/-- A code point is written after a backslash, with its digits between braces. -/
theorem codePointEscape_append (c : Char) (s : Text) :
    codePointEscape c ++ s = '\\' :: 'u' :: '\x7b' :: (Nat.toDigits 16 c.toNat ++ '\x7d' :: s) := by
  rw [codePointEscape, List.append_assoc, List.append_assoc]
  rfl

/-! ### What is written tells the character -/

/-- A letter belongs to one character, and no code point is written after it. -/
theorem letters_inj : ∀ p ∈ letters, p.2 ≠ 'u' ∧ ∀ q ∈ letters, p.2 = q.2 → p.1 = q.1 := by decide

theorem codePoint_inj {c d : Char} {s t : Text} (h : codePointEscape c ++ s = codePointEscape d ++ t) :
    c = d ∧ s = t := by
  rw [codePointEscape_append, codePointEscape_append] at h
  have hdigits (c : Char) : (Nat.toDigits 16 c.toNat).all Hex.isDigit = true :=
    List.all_eq_true.2 fun _ => Hex.isDigit_of_mem_toDigits
  have htail := (List.cons.inj (List.cons.inj (List.cons.inj h).2).2).2
  obtain ⟨hsame, -, hrest⟩ := run_inj (hdigits c) (hdigits d) (by decide) (by decide) htail
  have hvalue := congrArg Hex.nat hsame
  rw [Hex.nat_toDigits, Hex.nat_toDigits] at hvalue
  exact ⟨Char.toNat_inj.1 hvalue, hrest⟩

/-- What begins with a backslash is written by a letter or by a code point, and these two are told apart by the next
character. -/
theorem Written.inj {c d : Char} {a b s t : Text} (ha : Written c a) (hb : Written d b) (h : a ++ s = b ++ t) :
    c = d ∧ s = t := by
  cases ha with
  | letter hl =>
    cases hb with
    | letter hm =>
      obtain ⟨-, hsame⟩ := List.cons.inj h
      obtain ⟨hletter, hrest⟩ := List.cons.inj hsame
      exact ⟨(letters_inj _ hl).2 _ hm hletter, hrest⟩
    | itself _ hslash _ => exact absurd (List.cons.inj h).1.symm hslash
    | codePoint =>
      rw [codePointEscape_append] at h
      exact absurd (List.cons.inj (List.cons.inj h).2).1 (letters_inj _ hl).1
  | itself _ hslash _ =>
    cases hb with
    | letter _ => exact absurd (List.cons.inj h).1 hslash
    | itself _ _ _ => exact List.cons.inj h
    | codePoint =>
      rw [codePointEscape_append] at h
      exact absurd (List.cons.inj h).1 hslash
  | codePoint =>
    cases hb with
    | letter hm =>
      rw [codePointEscape_append] at h
      exact absurd (List.cons.inj (List.cons.inj h).2).1.symm (letters_inj _ hm).1
    | itself _ hslash _ =>
      rw [codePointEscape_append] at h
      exact absurd (List.cons.inj h).1.symm hslash
    | codePoint => exact codePoint_inj h

/-- No character is written with a quote in front. -/
theorem Written.ne_quote {c : Char} {a s t : Text} (ha : Written c a) : a ++ s ≠ '"' :: t := by
  intro h
  cases ha with
  | letter _ => exact absurd (List.cons.inj h).1 (by decide)
  | itself hquote _ _ => exact hquote (List.cons.inj h).1
  | codePoint =>
    rw [codePointEscape_append] at h
    exact absurd (List.cons.inj h).1 (by decide)

/-! ### Quoted texts -/

/-- The characters of a text, up to the closing quote, tell the text and what follows the quote. -/
theorem flatMap_quotedChar_inj {a b s t : Text} (h : a.flatMap quotedChar ++ '"' :: s = b.flatMap quotedChar ++ '"' :: t) :
    a = b ∧ s = t := by
  induction a generalizing b with
  | nil =>
    cases b with
    | nil => exact ⟨rfl, (List.cons.inj h).2⟩
    | cons d b =>
      rw [List.flatMap_cons, List.append_assoc] at h
      exact absurd h.symm (written_quotedChar d).ne_quote
  | cons c a ih =>
    rw [List.flatMap_cons, List.append_assoc] at h
    cases b with
    | nil => exact absurd h (written_quotedChar c).ne_quote
    | cons d b =>
      rw [List.flatMap_cons, List.append_assoc] at h
      obtain ⟨rfl, hmore⟩ := (written_quotedChar c).inj (written_quotedChar d) h
      obtain ⟨rfl, hrest⟩ := ih hmore
      exact ⟨rfl, hrest⟩

/-- **A quoted text tells its text and where it ends**, whatever the text holds and whatever follows. -/
theorem quoted_append_inj {a b s t : Text} (h : a.quoted ++ s = b.quoted ++ t) : a = b ∧ s = t := by
  rw [quoted, quoted, List.append_assoc, List.append_assoc] at h
  exact flatMap_quotedChar_inj (List.cons.inj h).2

/-! ### The characters between quotes -/

/-- Whether a character is one of ASCII with a printed form, the blank among them. -/
def isVisible (c : Char) : Bool := decide (0x20 ≤ c.toNat) && decide (c.toNat < 0x7f)

theorem isVisible_of_mem_toDigits {n : Nat} {c : Char} (h : c ∈ Nat.toDigits 16 n) : isVisible c = true := by
  have hall : ∀ d < 16, isVisible (Nat.digitChar d) = true := by decide
  obtain ⟨d, hd, rfl⟩ := Hex.exists_of_mem_toDigits h
  exact hall d hd

theorem Written.mem {c d : Char} {a : Text} (ha : Written d a) (hc : c ∈ a) : isVisible c = true ∨ showsAsIs c = true := by
  cases ha with
  | letter hletter =>
    have hall : ∀ p ∈ letters, isVisible p.2 = true := by decide
    rw [List.mem_cons, List.mem_singleton] at hc
    rcases hc with rfl | rfl
    · exact Or.inl (by decide)
    · exact Or.inl (hall _ hletter)
  | itself _ _ hshows =>
    rw [List.mem_singleton.1 hc]
    exact Or.inr hshows
  | codePoint =>
    left
    rw [codePointEscape, List.mem_append, List.mem_append, List.mem_singleton] at hc
    rcases hc with (hfront | hdigit) | rfl
    · have hall : ['\\', 'u', '\x7b'].all isVisible = true := by decide
      exact List.all_eq_true.1 hall c hfront
    · exact isVisible_of_mem_toDigits hdigit
    · decide

/-- **Between quotes there are only visible characters of ASCII, and characters that show themselves.** -/
theorem mem_quoted {c : Char} {s : Text} (h : c ∈ s.quoted) : isVisible c = true ∨ showsAsIs c = true := by
  rw [quoted, List.mem_append, List.mem_cons, List.mem_singleton] at h
  rcases h with (rfl | hmem) | rfl
  · exact Or.inl (by decide)
  · obtain ⟨d, -, hd⟩ := List.mem_flatMap.1 hmem
    exact (written_quotedChar d).mem hd
  · exact Or.inl (by decide)

end Text

end Multiples
