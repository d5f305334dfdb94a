import Mathlib.Data.List.Forall2
import Multiples.Proofs.Envelopes

/-!
# The grammar of requests

The decoder of requests unescapes a field, cuts it, trims each piece and then reads it.  What it accepts has a
simpler description: a field **as it is written** is a row of numerals with commas between them, or one numeral.
The two agree since what an entity stands for is never part of a numeral, so content with an ampersand is refused
either way.

* `Decimal.Numeral` — blanks, a sign at most, one or more digits, blanks; `Decimal.int64?_trim_eq_some_iff` says
  that trimming and reading accept exactly these;
* `Markup.means_unescape_iff` — a meaning that excludes the characters with entities is not changed by reading
  entities;
* `Envelope.FieldMeans` — what a field means as it is written, an absent one included;
* `Request.Fits`, `Request.Rejected` — the requests that a document may say, and the error if it says none;
* `Request.decode_iff_fits` — the decoder accepts what fits and refuses what is rejected, with that error.
-/

namespace Multiples

namespace Text

/-! ### Trimming, in both directions -/

theorem trim_between {before s after : Text} (hbefore : ∀ c ∈ before, isBlank c = true)
    (hs : ∀ c ∈ s, isBlank c = false) (hafter : ∀ c ∈ after, isBlank c = true) :
    trim (before ++ (s ++ after)) = s := by
  rw [trim_append hbefore]
  cases s with
  | nil => rw [List.nil_append, ← List.append_nil after, trim_append hafter]; rfl
  | cons c s =>
    have hfront : (c :: s ++ after).dropWhile isBlank = c :: s ++ after := by
      rw [List.cons_append, List.dropWhile_cons_of_neg (by simp [hs c List.mem_cons_self])]
    have hback : ∀ d ∈ after.reverse, isBlank d = true := fun d hd => hafter d (List.mem_reverse.1 hd)
    rw [trim, hfront, List.reverse_append, List.dropWhile_append_of_pos hback,
      dropWhile_eq_self fun d hd => hs d (List.mem_reverse.1 hd), List.reverse_reverse]

theorem exists_eq_append_dropWhile (kind : Char → Bool) (s : Text) :
    ∃ front, s = front ++ s.dropWhile kind ∧ ∀ c ∈ front, kind c = true :=
  ⟨s.takeWhile kind, List.takeWhile_append_dropWhile.symm, List.all_eq_true.1 List.all_takeWhile⟩

/-- What is trimmed away are blanks. -/
theorem exists_eq_trim (s : Text) : ∃ before after, s = before ++ (trim s ++ after)
    ∧ (∀ c ∈ before, isBlank c = true) ∧ ∀ c ∈ after, isBlank c = true := by
  obtain ⟨before, hs, hbefore⟩ := exists_eq_append_dropWhile isBlank s
  obtain ⟨back, hrest, hback⟩ := exists_eq_append_dropWhile isBlank (s.dropWhile isBlank).reverse
  refine ⟨before, back.reverse, ?_, hbefore, fun c hc => hback c (List.mem_reverse.1 hc)⟩
  have hreversed := congrArg List.reverse hrest
  rw [List.reverse_reverse, List.reverse_append] at hreversed
  rw [trim, ← hreversed]
  exact hs

end Text

namespace Markup

/-! ### Entities in what has a meaning -/

/-- The characters that have an entity. -/
def reserved : List Char := ['<', '>', '"', '\'', '&']

/-- Where an ampersand was, there is a character that has an entity. -/
theorem exists_mem_unescape {s : Text} (h : '&' ∈ s) : ∃ c ∈ reserved, c ∈ unescape s := by
  -- an entity leaves the character that it stands for, and an ampersand without one stays itself
  fun_induction unescape s with
  | case1 s ih => exact ⟨'<', by decide, List.mem_cons_self⟩
  | case2 s ih => exact ⟨'>', by decide, List.mem_cons_self⟩
  | case3 s ih => exact ⟨'"', by decide, List.mem_cons_self⟩
  | case4 s ih => exact ⟨'\'', by decide, List.mem_cons_self⟩
  | case5 s ih => exact ⟨'&', by decide, List.mem_cons_self⟩
  | case6 c s _ _ _ _ _ ih =>
    rcases List.mem_cons.1 h with rfl | hs
    · exact ⟨'&', by decide, List.mem_cons_self⟩
    · obtain ⟨found, hkind, hmem⟩ := ih hs
      exact ⟨found, hkind, List.mem_cons_of_mem c hmem⟩
  | case7 => exact absurd h List.not_mem_nil

/-- **Entities neither help nor hurt:** a text with a meaning that excludes the characters with entities means the
same before they are read. -/
theorem means_unescape_iff {means : Text → Prop}
    (hmeans : ∀ s, means s → ∀ c ∈ reserved, c ∉ s) (raw : Text) :
    means (unescape raw) ↔ means raw := by
  by_cases h : '&' ∈ raw
  · obtain ⟨c, hc, hmem⟩ := exists_mem_unescape h
    constructor
    · intro hread
      exact absurd hmem (hmeans (unescape raw) hread c hc)
    · intro hwritten
      exact absurd h (hmeans raw hwritten '&' (by decide))
  · rw [unescape_eq_self h]

end Markup

namespace Decimal

/-! ### Numerals -/

/-- The signs, and what they do to a value. -/
def signs : List (Text × Int) := [([], 1), (['+'], 1), (['-'], -1)]

/-- A numeral: blanks, a sign at most, one or more ASCII digits, and blanks.  It stands for the integer of 64 bits
with its value, and for none if the value does not fit. -/
def Numeral (token : Text) (n : Int64) : Prop :=
  ∃ before digits after : Text, ∃ sign ∈ signs,
    token = before ++ (sign.1 ++ digits ++ after)
      ∧ (∀ c ∈ before, Text.isBlank c = true) ∧ (∀ c ∈ after, Text.isBlank c = true)
      ∧ digits ≠ [] ∧ (∀ c ∈ digits, c.isDigit = true)
      ∧ n.toInt = sign.2 * (Nat.ofDigitChars 10 digits 0 : Nat)

theorem nat?_eq_some_iff {s : Text} {n : Nat} :
    nat? s = some n ↔ s ≠ [] ∧ (∀ c ∈ s, c.isDigit = true) ∧ Nat.ofDigitChars 10 s 0 = n := by
  rw [nat?]
  by_cases h : s ≠ [] ∧ s.all Char.isDigit = true
  · rw [if_pos h, Option.some.injEq]
    rw [List.all_eq_true] at h
    constructor
    · intro hn
      exact ⟨h.1, h.2, hn⟩
    · intro hn
      exact hn.2.2
  · rw [if_neg h]
    rw [List.all_eq_true] at h
    constructor
    · intro hn
      cases hn
    · intro hn
      exact absurd ⟨hn.1, hn.2.1⟩ h

/-- An integer is read from a sign at most, and digits. -/
theorem int?_eq_some_iff {s : Text} {i : Int} :
    int? s = some i ↔ ∃ sign ∈ signs, ∃ digits, s = sign.1 ++ digits
      ∧ ∃ n, nat? digits = some n ∧ i = sign.2 * (n : Int) := by
  constructor
  · intro h
    by_cases hminus : ∃ t, s = '-' :: t
    · obtain ⟨digits, rfl⟩ := hminus
      rw [int?_minus] at h
      obtain ⟨n, hread, rfl⟩ := Option.map_eq_some_iff.1 h
      exact ⟨(['-'], -1), by decide, digits, rfl, n, hread, (Int.neg_one_mul _).symm⟩
    by_cases hplus : ∃ t, s = '+' :: t
    · obtain ⟨digits, rfl⟩ := hplus
      rw [int?_plus] at h
      obtain ⟨n, hread, rfl⟩ := Option.map_eq_some_iff.1 h
      exact ⟨(['+'], 1), by decide, digits, rfl, n, hread, (Int.one_mul _).symm⟩
    · rw [int?_of_unsigned (not_exists.1 hminus) (not_exists.1 hplus)] at h
      obtain ⟨n, hread, rfl⟩ := Option.map_eq_some_iff.1 h
      exact ⟨([], 1), by decide, s, rfl, n, hread, (Int.one_mul _).symm⟩
  · intro hgiven
    obtain ⟨sign, hsign, digits, rfl, n, hread, rfl⟩ := hgiven
    simp only [signs, List.mem_cons, List.not_mem_nil, or_false] at hsign
    rcases hsign with rfl | rfl | rfl
    · rw [List.nil_append, int?_of_isDigit (nat?_eq_some_iff.1 hread).2.1, hread, Int.one_mul]
      rfl
    · rw [List.singleton_append, int?_plus, hread, Int.one_mul]
      rfl
    · rw [List.singleton_append, int?_minus, hread, Int.neg_one_mul]
      rfl

theorem int64?_eq_some_iff {s : Text} {n : Int64} : int64? s = some n ↔ int? s = some n.toInt := by
  rw [int64?, Option.bind_eq_some_iff]
  constructor
  · intro hgiven
    obtain ⟨i, hi, hfits⟩ := hgiven
    by_cases h : fitsInt64 i = true
    · rw [if_pos h, Option.some.injEq] at hfits
      rw [fitsInt64, Bool.and_eq_true, decide_eq_true_iff, decide_eq_true_iff] at h
      rw [hi, ← hfits, Int64.toInt_ofInt_of_le h.1 h.2]
    · rw [if_neg h] at hfits
      cases hfits
  · intro h
    exact ⟨n.toInt, h, by rw [if_pos (fitsInt64_toInt n), Int64.ofInt_toInt]⟩

theorem not_isBlank_of_signed {sign : Text × Int} (hsign : sign ∈ signs) {digits : Text}
    (hdigits : ∀ c ∈ digits, c.isDigit = true) : ∀ c ∈ sign.1 ++ digits, Text.isBlank c = false := by
  have hall : ∀ sign ∈ signs, (sign.1.all fun c => !Text.isBlank c) = true := by decide
  intro c hc
  rcases List.mem_append.1 hc with hfront | hdigit
  · have := List.all_eq_true.1 (hall sign hsign) c hfront
    rwa [Bool.not_eq_true'] at this
  · exact isBlank_of_isDigit (hdigits c hdigit)

/-- **Trimming and reading accept exactly the numerals.** -/
theorem int64?_trim_eq_some_iff {token : Text} {n : Int64} : int64? token.trim = some n ↔ Numeral token n := by
  rw [int64?_eq_some_iff, int?_eq_some_iff]
  constructor
  · intro hgiven
    obtain ⟨sign, hsign, digits, htrim, m, hread, hvalue⟩ := hgiven
    obtain ⟨hne, hdigits, rfl⟩ := nat?_eq_some_iff.1 hread
    obtain ⟨before, after, htoken, hbefore, hafter⟩ := Text.exists_eq_trim token
    rw [htrim] at htoken
    exact ⟨before, digits, after, sign, hsign, htoken, hbefore, hafter, hne, hdigits, hvalue⟩
  · intro hgiven
    obtain ⟨before, digits, after, sign, hsign, rfl, hbefore, hafter, hne, hdigits, hvalue⟩ := hgiven
    have htrim := Text.trim_between hbefore (not_isBlank_of_signed hsign hdigits) hafter
    exact ⟨sign, hsign, digits, htrim, _, nat?_eq_some_iff.2 ⟨hne, hdigits, rfl⟩, hvalue⟩

/-- A numeral has none of the characters that entities stand for. -/
theorem Numeral.not_mem {token : Text} {n : Int64} (h : Numeral token n) {c : Char}
    (hc : c ∈ Markup.reserved) : c ∉ token := by
  obtain ⟨before, digits, after, sign, hsign, rfl, hbefore, hafter, -, hdigits, -⟩ := h
  have hkinds : c = '<' ∨ c = '>' ∨ c = '"' ∨ c = '\'' ∨ c = '&' := by simpa [Markup.reserved] using hc
  have hother : Text.isBlank c = false ∧ c.isDigit = false ∧ ∀ sign ∈ signs, c ∉ sign.1 := by
    rcases hkinds with rfl | rfl | rfl | rfl | rfl <;> decide
  obtain ⟨hblank, hdigit, hsigns⟩ := hother
  simp only [List.mem_append, not_or]
  refine ⟨fun hm => ?_, ⟨hsigns sign hsign, fun hm => ?_⟩, fun hm => ?_⟩
  · rw [hbefore c hm] at hblank
    exact Bool.noConfusion hblank
  · rw [hdigits c hm] at hdigit
    exact Bool.noConfusion hdigit
  · rw [hafter c hm] at hblank
    exact Bool.noConfusion hblank

end Decimal

namespace Envelope

open Decimal (Numeral)

/-! ### Fields -/

/-- A row of numerals with commas between them. -/
def Numerals (raw : Text) (ns : List Int64) : Prop := List.Forall₂ Numeral (raw.cells ',') ns

/-- What a field means as it is written: a default if it is absent. -/
inductive FieldMeans {α : Type} (doc tag : Text) (missing : α) (means : Text → α → Prop) : α → Prop
  | absent (h : field? doc tag = none) : FieldMeans doc tag missing means missing
  | present {raw : Text} {a : α} (h : field? doc tag = some raw) (hmeans : means raw a) :
      FieldMeans doc tag missing means a

variable {doc tag : Text}

theorem exists_numeral {tokens : List Text} {ns : List Int64} (h : List.Forall₂ Numeral tokens ns) :
    ∀ token ∈ tokens, ∃ n, Numeral token n := by
  induction h with
  | nil =>
    intro token htoken
    exact absurd htoken List.not_mem_nil
  | cons hfirst _ ih =>
    intro token htoken
    rcases List.mem_cons.1 htoken with rfl | hmore
    · exact ⟨_, hfirst⟩
    · exact ih token hmore

theorem Numerals.not_mem {raw : Text} {ns : List Int64} (h : Numerals raw ns) : ∀ c ∈ Markup.reserved, c ∉ raw := by
  intro c hc hmem
  have hcomma : c ≠ ',' := by
    rintro rfl
    exact absurd hc (by decide)
  obtain ⟨cell, hcell, hin⟩ := Text.mem_cells hmem hcomma
  obtain ⟨n, hnumeral⟩ := exists_numeral h cell hcell
  exact hnumeral.not_mem hc hin

/-- Tokens are read exactly if each of them is a numeral. -/
theorem readInts_eq_ok_iff {tokens : List Text} {ns : List Int64} :
    readInts tag tokens = .ok ns ↔ List.Forall₂ Numeral tokens ns := by
  induction tokens generalizing ns with
  | nil =>
    rw [List.forall₂_nil_left_iff]
    constructor
    · intro h
      cases h
      rfl
    · intro h
      rw [h]
      rfl
  | cons token more ih =>
    rw [readInts, Stages.bind_eq_ok_iff, List.forall₂_cons_left_iff]
    refine exists_congr fun n => ?_
    rw [Stages.bind_eq_ok_iff, readInt_eq_ok_iff, Decimal.int64?_trim_eq_some_iff]
    simp only [ih]
    constructor
    · intro hgiven
      obtain ⟨hn, rest, hrest, hpure⟩ := hgiven
      cases hpure
      exact ⟨rest, hn, hrest, rfl⟩
    · intro hgiven
      obtain ⟨rest, hn, hrest, rfl⟩ := hgiven
      exact ⟨hn, rest, hrest, rfl⟩

theorem fieldMeans_iff {α : Type} {missing a : α} {means : Text → α → Prop} :
    FieldMeans doc tag missing means a
      ↔ (field? doc tag = none ∧ a = missing) ∨ ∃ raw, field? doc tag = some raw ∧ means raw a := by
  constructor
  · intro h
    cases h with
    | absent h => exact Or.inl ⟨h, rfl⟩
    | present h hmeans => exact Or.inr ⟨_, h, hmeans⟩
  · intro hcases
    rcases hcases with ⟨h, rfl⟩ | ⟨raw, h, hmeans⟩
    · exact .absent h
    · exact .present h hmeans

/-- A number is read from a field exactly if its numeral is written there. -/
theorem intField_eq_ok_iff {missing n : Int64} :
    intField doc tag missing = .ok n ↔ FieldMeans doc tag missing Numeral n := by
  have hread : ∀ raw, readInt tag (Markup.unescape raw) = .ok n ↔ Numeral raw n := by
    intro raw
    rw [readInt_eq_ok_iff, Decimal.int64?_trim_eq_some_iff]
    have hmeans : ∀ s, Numeral s n → ∀ c ∈ Markup.reserved, c ∉ s := fun _ h _ hc => h.not_mem hc
    exact Markup.means_unescape_iff hmeans raw
  rw [fieldMeans_iff, intField]
  cases field? doc tag with
  | none => simp [eq_comm]
  | some raw => simp [hread]

/-- Numbers are read from a field exactly if their numerals are written there. -/
theorem intListField_eq_ok_iff {missing ns : List Int64} :
    intListField doc tag missing = .ok ns ↔ FieldMeans doc tag missing Numerals ns := by
  have hread : ∀ raw, readInts tag ((Markup.unescape raw).cells ',') = .ok ns ↔ Numerals raw ns := by
    intro raw
    rw [readInts_eq_ok_iff]
    have hmeans : ∀ s, Numerals s ns → ∀ c ∈ Markup.reserved, c ∉ s := fun _ h => h.not_mem
    exact Markup.means_unescape_iff hmeans raw
  rw [fieldMeans_iff, intListField]
  cases field? doc tag with
  | none => simp [eq_comm]
  | some raw => simp [hread]

theorem isInteger_iff {token : Text} : isInteger token = true ↔ ∃ n, Numeral token n := by
  simp only [isInteger, Option.isSome_iff_exists, Decimal.int64?_trim_eq_some_iff]

theorem isInteger_eq_false_iff {token : Text} : isInteger token = false ↔ ∀ n, ¬ Numeral token n := by
  rw [Bool.eq_false_iff, ne_eq, isInteger_iff, not_exists]

theorem FieldMeans.ampersand_not_mem {α : Type} {missing a : α} {means : Text → α → Prop}
    (hmeans : ∀ s, means s a → '&' ∉ s) (h : FieldMeans doc tag missing means a) {raw : Text}
    (hraw : field? doc tag = some raw) : '&' ∉ raw := by
  cases h with
  | absent hnone =>
    rw [hnone] at hraw
    exact nomatch hraw
  | present hsome hread =>
    rw [hsome] at hraw
    cases hraw
    exact hmeans _ hread

end Envelope

namespace Request

open Decimal (Numeral)
open Envelope (field? FieldMeans Numerals)

/-! ### Requests -/

/-- A document says a request: its numbers are the row of numerals in their field, none if that is absent, and its
divisor is the numeral in its field, one if that is absent. -/
structure Fits (doc : Text) (r : Request) : Prop where
  numbers : FieldMeans doc numbersTag [] Numerals r.numbers
  divisor : FieldMeans doc divisorTag 1 Numeral r.divisor

/-- A document says no request, and why: the first token of the numbers that is no numeral, or else the divisor.
Tokens are told unescaped and trimmed. -/
inductive Rejected (doc : Text) : DecodeError → Prop
  | number {raw token : Text} {before after : List Text} (hraw : field? doc numbersTag = some raw)
      (htokens : (Markup.unescape raw).cells ',' = before ++ token :: after)
      (hbefore : ∀ t ∈ before, ∃ n, Numeral t n) (htoken : ∀ n, ¬ Numeral token n) :
      Rejected doc (.invalidNumber numbersTag token.trim)
  | divisor {raw : Text} {ns : List Int64} (hnumbers : FieldMeans doc numbersTag [] Numerals ns)
      (hraw : field? doc divisorTag = some raw) (htoken : ∀ n, ¬ Numeral (Markup.unescape raw) n) :
      Rejected doc (.invalidNumber divisorTag (Markup.unescape raw).trim)

theorem decode_eq_ok_iff_fits {doc : Text} {r : Request} : decode doc = .ok r ↔ Fits doc r := by
  rw [decode_eq_ok_iff, Envelope.intListField_eq_ok_iff, Envelope.intField_eq_ok_iff]
  constructor
  · intro hgiven
    exact ⟨hgiven.1, hgiven.2⟩
  · intro hfits
    exact ⟨hfits.numbers, hfits.divisor⟩

theorem decode_eq_error_iff_rejected {doc : Text} {e : DecodeError} : decode doc = .error e ↔ Rejected doc e := by
  rw [decode_eq_error_iff]
  constructor
  · intro hcases
    rcases hcases with hnumbers | ⟨ns, hnumbers, hdivisor⟩
    · obtain ⟨raw, hraw, htokens⟩ := Envelope.intListField_eq_error_iff.1 hnumbers
      obtain ⟨before, token, after, hcells, hbefore, htoken, rfl⟩ := Envelope.readInts_eq_error_iff.1 htokens
      refine .number hraw hcells (fun t ht => ?_) (Envelope.isInteger_eq_false_iff.1 htoken)
      exact Envelope.isInteger_iff.1 (List.all_eq_true.1 hbefore t ht)
    · obtain ⟨raw, hraw, htoken⟩ := Envelope.intField_eq_error_iff.1 hdivisor
      obtain ⟨hbad, rfl⟩ := Envelope.readInt_eq_error_iff.1 htoken
      exact .divisor (Envelope.intListField_eq_ok_iff.1 hnumbers) hraw (Envelope.isInteger_eq_false_iff.1 hbad)
  · intro hrejected
    cases hrejected with
    | @number raw token before after hraw htokens hbefore htoken =>
      have hall : before.all Envelope.isInteger = true :=
        List.all_eq_true.2 fun t ht => Envelope.isInteger_iff.2 (hbefore t ht)
      have hbad := Envelope.isInteger_eq_false_iff.2 htoken
      refine Or.inl (Envelope.intListField_eq_error_iff.2 ⟨raw, hraw, ?_⟩)
      exact Envelope.readInts_eq_error_iff.2 ⟨before, token, after, htokens, hall, hbad, rfl⟩
    | @divisor raw ns hnumbers hraw htoken =>
      have hbad := Envelope.isInteger_eq_false_iff.2 htoken
      refine Or.inr ⟨ns, Envelope.intListField_eq_ok_iff.2 hnumbers, ?_⟩
      exact Envelope.intField_eq_error_iff.2 ⟨raw, hraw, Envelope.readInt_eq_error_iff.2 ⟨hbad, rfl⟩⟩

/-- Neither field of a request that a document says is written with an ampersand. -/
theorem Fits.ampersand_not_mem {doc : Text} {r : Request} (h : Fits doc r) {tag : Text}
    (htag : tag ∈ [numbersTag, divisorTag]) {raw : Text} (hraw : field? doc tag = some raw) : '&' ∉ raw := by
  rcases List.mem_cons.1 htag with rfl | hlast
  · exact h.numbers.ampersand_not_mem (fun s hs => hs.not_mem '&' (by decide)) hraw
  · rw [List.mem_singleton.1 hlast] at hraw
    exact h.divisor.ampersand_not_mem (fun s hs => hs.not_mem (by decide)) hraw

/-- **The decoder accepts exactly its grammar.**  A request is read from a document exactly if the document says it;
content of either field with an ampersand is never accepted; and otherwise the error is the one for the first token
that is no numeral, that of the divisor last.  It is never the error of a reply without a result. -/
theorem decode_iff_fits (doc : Text) :
    (∀ r, decode doc = .ok r ↔ Fits doc r)
    ∧ (∀ tag ∈ [numbersTag, divisorTag], ∀ raw, field? doc tag = some raw → '&' ∈ raw → ∀ r, decode doc ≠ .ok r)
    ∧ (∀ e, decode doc = .error e ↔ Rejected doc e)
    ∧ decode doc ≠ .error .missingResult := by
  refine ⟨fun r => decode_eq_ok_iff_fits, ?_, fun e => decode_eq_error_iff_rejected, ?_⟩
  · intro tag htag raw hraw hmem r hread
    exact (decode_eq_ok_iff_fits.1 hread).ampersand_not_mem htag hraw hmem
  · intro hread
    exact nomatch decode_eq_error_iff_rejected.1 hread

end Request

end Multiples
