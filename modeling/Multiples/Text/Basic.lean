/-!
# Text

A text is a list of characters, so that every definition on texts is recursion on the list.  Strings appear
where text enters or leaves the program, and as literals.

* `Text.after?` reads off a known beginning;
* `Text.cut?` finds the first occurrence of a mark and gives what stands before and after it
  (`Text.cut?_eq_some`);
* `Text.cells` cuts at every occurrence of one character, and `Text.glue` is its inverse
  (`Text.glue_cells`).
-/

namespace Multiples

/-- A sequence of characters. -/
abbrev Text := List Char

namespace Text

/-! ## Beginnings -/

/-- What follows a known beginning of a text, if the text has that beginning. -/
def after? : Text → Text → Option Text
  | [], s => some s
  | _ :: _, [] => none
  | m :: mark, c :: s => if m = c then after? mark s else none

theorem after?_eq_some {mark s rest : Text} : after? mark s = some rest ↔ s = mark ++ rest := by
  induction mark generalizing s with
  | nil => simp [after?]
  | cons m mark ih =>
    cases s with
    | nil => simp [after?]
    | cons c s =>
      by_cases h : m = c
      · simp [after?, h, ih]
      · have h' : ¬ c = m := fun e => h e.symm
        simp [after?, h, h']

/-! ## First occurrences -/

/-- The text before and the text after the first occurrence of a mark. -/
def cut? (mark : Text) : Text → Option (Text × Text)
  | [] => (after? mark []).map fun rest => ([], rest)
  | c :: s =>
    match after? mark (c :: s) with
    | some rest => some ([], rest)
    | none => (cut? mark s).map fun found => (c :: found.1, found.2)

/-- Whether a mark occurs in a text. -/
def occurs (mark s : Text) : Bool := (cut? mark s).isSome

/-- **A cut loses nothing but the mark.** -/
theorem cut?_eq_some {mark s front rest : Text} (h : cut? mark s = some (front, rest)) :
    s = front ++ mark ++ rest := by
  induction s generalizing front rest with
  | nil =>
    simp only [cut?, Option.map_eq_some_iff, Prod.mk.injEq] at h
    obtain ⟨r, hr, rfl, rfl⟩ := h
    simpa using after?_eq_some.1 hr
  | cons c s ih =>
    simp only [cut?] at h
    split at h
    · rename_i r hr
      simp only [Option.some.injEq, Prod.mk.injEq] at h
      obtain ⟨rfl, rfl⟩ := h
      simpa using after?_eq_some.1 hr
    · simp only [Option.map_eq_some_iff, Prod.mk.injEq] at h
      obtain ⟨⟨f, r⟩, hf, rfl, rfl⟩ := h
      simp [ih hf]

/-! ## Cells -/

/-- The pieces between the occurrences of a character; a text without it is one piece. -/
def cells (sep : Char) : Text → List Text
  | [] => [[]]
  | c :: s =>
    if c = sep then [] :: cells sep s
    else
      match cells sep s with
      | [] => [[c]]
      | cell :: more => (c :: cell) :: more

/-- Pieces in order, with a text between every two of them. -/
def glue (sep : Text) : List Text → Text
  | [] => []
  | [cell] => cell
  | cell :: next :: more => cell ++ sep ++ glue sep (next :: more)

theorem cells_ne_nil (sep : Char) (s : Text) : cells sep s ≠ [] := by
  cases s with
  | nil => simp [cells]
  | cons c s => simp only [cells]; split <;> (try split) <;> simp

/-- **Cutting and gluing are inverse.** -/
theorem glue_cells (sep : Char) (s : Text) : glue [sep] (cells sep s) = s := by
  induction s with
  | nil => rfl
  | cons c s ih =>
    have hne := cells_ne_nil sep s
    rw [cells]
    cases hc : cells sep s with
    | nil => exact absurd hc hne
    | cons cell more =>
      rw [hc] at ih
      by_cases h : c = sep
      · simp [h, glue, ih]
      · cases more <;> simp_all [glue]

/-! ## Order -/

/-- Whether a text stands before another one or is the same, in the order of their characters. -/
def isAtMost : Text → Text → Bool
  | [], _ => true
  | _ :: _, [] => false
  | c :: s, d :: t => if c = d then isAtMost s t else decide (c.toNat < d.toNat)

/-! ## Length in bytes -/

/-- How many bytes a text takes in UTF-8. -/
def byteSize : Text → Nat
  | [] => 0
  | c :: s => c.utf8Size + byteSize s

theorem byteSize_append (a b : Text) : byteSize (a ++ b) = byteSize a + byteSize b := by
  induction a with
  | nil => simp [byteSize]
  | cons c a ih =>
    simp only [List.cons_append, byteSize, ih]
    omega

/-- The text after so many bytes, if they end between two characters. -/
def dropBytes? : Text → Nat → Option Text
  | s, 0 => some s
  | [], _ + 1 => none
  | c :: s, n + 1 => if c.utf8Size ≤ n + 1 then dropBytes? s (n + 1 - c.utf8Size) else none

/-- The text of the first so many bytes, if they end between two characters. -/
def takeBytes? : Text → Nat → Option Text
  | _, 0 => some []
  | [], _ + 1 => none
  | c :: s, n + 1 => if c.utf8Size ≤ n + 1 then (takeBytes? s (n + 1 - c.utf8Size)).map (c :: ·) else none

end Text

end Multiples
