import Multiples.Proofs.Fields

/-!
# Entities as a table

Reading an entity is looking up in a table of five.  No entity begins another one and none has an ampersand but its
first character, so a text falls apart into entities and single characters in one way only, and everything about
reading is an induction on these pieces.

* `Markup.entities` — the table; `Markup.entity?` looks up the entity that a text begins with;
* `Markup.pieces_induction` — a text is nothing, an entity before a text, or a character that begins none;
* `Markup.unescape_entity`, `Markup.unescape_char` — reading, one piece after the other;
* `Markup.IsData` — the texts that are written: no delimiter, and no ampersand but that of an entity;
* `Markup.escape_unescape_inverse` — **writing and reading are inverse**, and what is written is data, no more and
  no less.
-/

namespace Multiples

namespace Markup

/-! ### The table -/

/-- An entity: what is written after the ampersand, and the character that it stands for. -/
structure Entity where
  ending : Text
  char : Char
deriving DecidableEq, Repr

/-- An entity as it is written. -/
def Entity.text (e : Entity) : Text := '&' :: e.ending

theorem Entity.text_append (e : Entity) (s : Text) : e.text ++ s = '&' :: (e.ending ++ s) := rfl

/-- The entities of the characters that delimit markup. -/
def delimiters : List Entity :=
  [⟨"lt;".toList, '<'⟩, ⟨"gt;".toList, '>'⟩, ⟨"quot;".toList, '"'⟩, ⟨"apos;".toList, '\''⟩]

/-- The entity of the character that begins all of them. -/
def ampersand : Entity := ⟨"amp;".toList, '&'⟩

def entities : List Entity := delimiters ++ [ampersand]

/-- The character of the entity that a text begins with, and what follows that entity. -/
def entity? (known : List Entity) (s : Text) : Option (Char × Text) :=
  known.findSome? fun e => (Text.after? e.text s).map fun rest => (e.char, rest)

/-- The endings are made of the characters of names; the characters they stand for are none of these. -/
theorem isNameChar_entities :
    ∀ e ∈ entities, e.ending.all isNameChar = true ∧ isNameChar e.char = false := by decide

theorem ampersand_not_mem_ending {e : Entity} (he : e ∈ entities) : '&' ∉ e.ending := by
  intro hmem
  have hchar := List.all_eq_true.1 (isNameChar_entities e he).1 '&' hmem
  exact absurd hchar (by decide)

/-- No entity begins another one. -/
theorem entity_eq_of_begins : ∀ e ∈ entities, ∀ f ∈ entities, e.text <+: f.text → e = f := by decide

/-- At most one entity begins a text. -/
theorem entity_unique {e f : Entity} (he : e ∈ entities) (hf : f ∈ entities) {s t : Text}
    (h : e.text ++ s = f.text ++ t) : e = f ∧ s = t := by
  have hsame : e = f := by
    have hleft : e.text <+: f.text ++ t := h ▸ List.prefix_append e.text s
    rcases List.prefix_or_prefix_of_prefix hleft (List.prefix_append f.text t) with hshort | hlong
    · exact entity_eq_of_begins e he f hf hshort
    · exact (entity_eq_of_begins f hf e he hlong).symm
  subst hsame
  exact ⟨rfl, List.append_cancel_left h⟩

/-! ### Looking up -/

section Known

variable {known : List Entity} {s rest : Text} {c : Char}

theorem exists_entity (h : entity? known s = some (c, rest)) :
    ∃ e ∈ known, e.char = c ∧ s = e.text ++ rest := by
  obtain ⟨e, he, hfound⟩ := List.exists_of_findSome?_eq_some h
  obtain ⟨r, hafter, hpair⟩ := Option.map_eq_some_iff.1 hfound
  cases hpair
  exact ⟨e, he, rfl, Text.after?_eq_some.1 hafter⟩

/-- An entity that is found leaves less. -/
theorem length_of_entity? {found : Char × Text} (h : entity? known s = some found) : found.2.length < s.length := by
  obtain ⟨e, -, -, hsame⟩ := exists_entity h
  rw [hsame, Entity.text_append, List.length_cons, List.length_append]
  omega

theorem entity?_eq_none_iff : entity? known s = none ↔ ∀ e ∈ known, ∀ rest, s ≠ e.text ++ rest := by
  rw [entity?, List.findSome?_eq_none_iff]
  refine forall₂_congr fun e _ => ?_
  rw [Option.map_eq_none_iff, Option.eq_none_iff_forall_ne_some]
  exact forall_congr' fun rest => not_congr Text.after?_eq_some

theorem entity?_text (hknown : known ⊆ entities) {e : Entity} (he : e ∈ known) (s : Text) :
    entity? known (e.text ++ s) = some (e.char, s) := by
  cases h : entity? known (e.text ++ s) with
  | none => exact absurd rfl (entity?_eq_none_iff.1 h e he s)
  | some found =>
    obtain ⟨f, hf, hchar, hsame⟩ := exists_entity h
    obtain ⟨rfl, hrest⟩ := entity_unique (hknown he) (hknown hf) hsame
    rw [hchar, hrest]

theorem entity?_cons_of_ne (h : c ≠ '&') (s : Text) : entity? known (c :: s) = none := by
  refine entity?_eq_none_iff.2 fun e _ rest hsame => h ?_
  exact (List.cons.inj hsame).1

/-- **A text, piece by piece:** it is nothing, or begins with an entity that is known, or with a character that begins
none of these. -/
theorem pieces_induction (known : List Entity) {motive : Text → Prop} (nil : motive [])
    (entity : ∀ e ∈ known, ∀ s, motive s → motive (e.text ++ s))
    (char : ∀ c s, entity? known (c :: s) = none → motive s → motive (c :: s)) (s : Text) : motive s := by
  -- by the length, since an entity is several characters long
  induction hlength : s.length using Nat.strongRecOn generalizing s with
  | ind n ih =>
    cases s with
    | nil => exact nil
    | cons c s =>
      cases h : entity? known (c :: s) with
      | none => exact char c s h (ih s.length (by rw [← hlength]; exact Nat.lt_succ_self _) s rfl)
      | some found =>
        obtain ⟨e, he, -, hsame⟩ := exists_entity h
        have hshorter : found.2.length < n := hlength ▸ length_of_entity? h
        rw [hsame]
        exact entity e he found.2 (ih _ hshorter found.2 rfl)

end Known

/-! ### Reading and writing, piece by piece -/

theorem unescape_entity {e : Entity} (he : e ∈ entities) (s : Text) :
    unescape (e.text ++ s) = e.char :: unescape s := by
  simp only [entities, delimiters, ampersand, List.cons_append, List.nil_append, List.mem_cons, List.not_mem_nil,
    or_false] at he
  rcases he with rfl | rfl | rfl | rfl | rfl
  · rfl
  · rfl
  · rfl
  · rfl
  · rfl

theorem unescape_char {c : Char} {s : Text} (h : entity? entities (c :: s) = none) :
    unescape (c :: s) = c :: unescape s := by
  have hnone : ∀ e ∈ entities, ∀ rest, c :: s ≠ e.text ++ rest := entity?_eq_none_iff.1 h
  rw [unescape]
  · rintro rest rfl rfl
    exact hnone ⟨"lt;".toList, '<'⟩ (by decide) rest rfl
  · rintro rest rfl rfl
    exact hnone ⟨"gt;".toList, '>'⟩ (by decide) rest rfl
  · rintro rest rfl rfl
    exact hnone ⟨"quot;".toList, '"'⟩ (by decide) rest rfl
  · rintro rest rfl rfl
    exact hnone ⟨"apos;".toList, '\''⟩ (by decide) rest rfl
  · rintro rest rfl rfl
    exact hnone ampersand (by decide) rest rfl

theorem escapedChar_char : ∀ e ∈ entities, escapedChar e.char = e.text := by decide

theorem escapedChar_eq_self {c : Char} (h : ∀ e ∈ entities, e.char ≠ c) : escapedChar c = [c] := by
  simp only [entities, delimiters, ampersand, List.cons_append, List.nil_append, List.forall_mem_cons] at h
  obtain ⟨hlt, hgt, hquot, hapos, hamp, -⟩ := h
  unfold escapedChar
  split
  · exact absurd rfl hamp
  · exact absurd rfl hlt
  · exact absurd rfl hgt
  · exact absurd rfl hquot
  · exact absurd rfl hapos
  · rfl

/-! ### Data -/

/-- A text as it is written for data: it has none of the characters that delimit markup, and each of its ampersands
begins one of the five entities. -/
structure IsData (t : Text) : Prop where
  delimiter : ∀ e ∈ delimiters, e.char ∉ t
  ampersand : ∀ before after, t = before ++ '&' :: after → ∃ e ∈ entities, e.text <+: '&' :: after

theorem IsData.of_append {s t : Text} (h : IsData (s ++ t)) : IsData t where
  delimiter e he hmem := h.delimiter e he (List.mem_append_right s hmem)
  ampersand before after hsame := h.ampersand (s ++ before) after (by rw [hsame, List.append_assoc])

/-- An ampersand that is written begins the entity that it was written for. -/
theorem entity_of_escapedChar {c : Char} {before after : Text} (h : escapedChar c = before ++ '&' :: after) :
    ∃ e ∈ entities, '&' :: after = e.text := by
  by_cases hc : ∃ e ∈ entities, e.char = c
  · obtain ⟨e, he, rfl⟩ := hc
    rw [escapedChar_char e he, Entity.text] at h
    cases before with
    | nil => exact ⟨e, he, h.symm⟩
    | cons b before =>
      -- behind its first character an entity has no ampersand
      have hmem : '&' ∈ e.ending := by
        rw [(List.cons.inj h).2]
        exact List.mem_append_right before List.mem_cons_self
      exact absurd hmem (ampersand_not_mem_ending he)
  · have hnone : ∀ e ∈ entities, e.char ≠ c := fun e he hsame => hc ⟨e, he, hsame⟩
    have hmem : '&' ∈ [c] := by
      rw [← escapedChar_eq_self hnone, h]
      exact List.mem_append_right before List.mem_cons_self
    exact absurd (List.mem_singleton.1 hmem) (hnone ampersand (by decide))

theorem isData_escape (s : Text) : IsData (escape s) := by
  refine ⟨fun e he => not_mem_escape ?_ s, ?_⟩
  · have hall : ∀ e ∈ delimiters, e.char ∈ ['<', '>', '"', '\''] := by decide
    exact hall e he
  · induction s with
    | nil =>
      intro before after h
      exact absurd h (by simp [escape])
    | cons c s ih =>
      intro before after h
      rw [escape_cons] at h
      rcases List.append_eq_append_iff.1 h with ⟨between, hbefore, hrest⟩ | ⟨between, hchar, hrest⟩
      · exact ih between after hrest
      · cases between with
        | nil => exact ih [] after hrest.symm
        | cons b between =>
          obtain ⟨rfl, hafter⟩ := List.cons.inj hrest
          obtain ⟨e, he, htext⟩ := entity_of_escapedChar hchar
          exact ⟨e, he, by rw [← htext, hafter]; exact ⟨escape s, rfl⟩⟩

/-- In data, a character that begins no entity has none. -/
theorem IsData.escapedChar_eq {c : Char} {s : Text} (h : IsData (c :: s)) (hnone : entity? entities (c :: s) = none) :
    escapedChar c = [c] := by
  refine escapedChar_eq_self fun e he hchar => ?_
  rcases List.mem_append.1 he with hdelimiter | hlast
  · exact h.delimiter e hdelimiter (hchar ▸ List.mem_cons_self)
  · rw [List.mem_singleton.1 hlast] at hchar
    obtain ⟨f, hf, rest, hrest⟩ := h.ampersand [] s (hchar ▸ rfl)
    rw [← hchar] at hnone
    exact entity?_eq_none_iff.1 hnone f hf rest hrest.symm

theorem escape_unescape {t : Text} (h : IsData t) : escape (unescape t) = t := by
  induction t using pieces_induction entities with
  | nil => rfl
  | entity e he s ih => rw [unescape_entity he, escape_cons, escapedChar_char e he, ih h.of_append]
  | char c s hnone ih =>
    have hdata : IsData s := IsData.of_append (s := [c]) h
    rw [unescape_char hnone, escape_cons, ih hdata, h.escapedChar_eq hnone, List.singleton_append]

/-! ### Main statement -/

/-- **Writing and reading are inverse.**  What was written is read back, whatever follows it, and nothing of it is read
twice; the texts that are written are those without a delimiter in which each ampersand begins an entity, and these
are the texts that reading and writing again give back. -/
theorem escape_unescape_inverse (a b t : Text) :
    unescape (escape a ++ b) = a ++ unescape b
    ∧ unescape (escape a) = a
    ∧ ((∃ s, t = escape s) ↔ IsData t)
    ∧ (escape (unescape t) = t ↔ IsData t) := by
  refine ⟨unescape_escape_append a b, unescape_escape a, ⟨?_, ?_⟩, ⟨?_, escape_unescape⟩⟩
  · rintro ⟨s, rfl⟩
    exact isData_escape s
  · intro h
    exact ⟨unescape t, (escape_unescape h).symm⟩
  · intro h
    rw [← h]
    exact isData_escape (unescape t)

end Markup

end Multiples
