import Multiples.Text.Basic

/-!
# Texts in cells

A text that was put together from pieces is taken apart again by cutting it at the character between them, as
long as no piece holds that character.

* `Text.cells_append_left` — a text in front that does not hold the separator joins the first cell;
* `Text.cells_append` — and is a cell of its own, if the separator follows it;
* `Text.cells_glue` — cutting at a separator undoes gluing; what is glued in after the separator stays at the
  beginning of the next cell;
* `Text.mem_glue` — gluing adds no characters but those of the text in between; `Text.mem_cells` — cutting loses no
  character but the separator, since gluing undoes it.
-/

namespace Multiples

namespace Text

variable {sep : Char}

theorem exists_cells (sep : Char) (s : Text) : ∃ cell more, cells sep s = cell :: more :=
  List.exists_cons_of_ne_nil (cells_ne_nil sep s)

theorem cells_cons_self (s : Text) : cells sep (sep :: s) = [] :: cells sep s := by
  rw [cells, if_pos rfl]

theorem cells_append_left {front s cell : Text} {more : List Text} (h : sep ∉ front)
    (hs : cells sep s = cell :: more) : cells sep (front ++ s) = (front ++ cell) :: more := by
  induction front with
  | nil => exact hs
  | cons c front ih =>
    rw [List.mem_cons, not_or] at h
    rw [List.cons_append, cells, if_neg (Ne.symm h.1), ih h.2]
    rfl

theorem cells_of_not_mem {s : Text} (h : sep ∉ s) : cells sep s = [s] := by
  have := cells_append_left h (show cells sep [] = [[]] from rfl)
  rwa [List.append_nil] at this

theorem cells_append {s : Text} (h : sep ∉ s) (t : Text) : cells sep (s ++ sep :: t) = s :: cells sep t := by
  have := cells_append_left h (cells_cons_self t)
  rwa [List.append_nil] at this

/-- **Cutting undoes gluing.**  What is glued in after the separator opens the cell after it. -/
theorem cells_glue {pad : Text} (hpad : sep ∉ pad) {cell : Text} {more : List Text}
    (h : ∀ c ∈ cell :: more, sep ∉ c) :
    cells sep (glue (sep :: pad) (cell :: more)) = cell :: more.map (pad ++ ·) := by
  induction more generalizing cell with
  | nil => exact cells_of_not_mem (h cell List.mem_cons_self)
  | cons next more ih =>
    have hnext := ih fun c hc => h c (List.mem_cons_of_mem cell hc)
    have hglued : glue (sep :: pad) (cell :: next :: more)
        = cell ++ sep :: (pad ++ glue (sep :: pad) (next :: more)) := by
      rw [glue, List.append_assoc, List.cons_append]
    rw [hglued, cells_append (h cell List.mem_cons_self), cells_append_left hpad hnext, List.map_cons]

/-- Every character of what is glued comes from a piece, or from what stands between the pieces. -/
theorem mem_glue {between : Text} {c : Char} {pieces : List Text} (h : c ∈ glue between pieces) :
    c ∈ between ∨ ∃ piece ∈ pieces, c ∈ piece := by
  induction pieces with
  | nil => exact absurd h List.not_mem_nil
  | cons piece pieces ih =>
    cases pieces with
    | nil => exact Or.inr ⟨piece, List.mem_singleton_self piece, h⟩
    | cons next more =>
      rw [glue, List.mem_append, List.mem_append] at h
      rcases h with (hpiece | hbetween) | hrest
      · exact Or.inr ⟨piece, List.mem_cons_self, hpiece⟩
      · exact Or.inl hbetween
      · rcases ih hrest with hbetween | ⟨found, hfound, hc⟩
        · exact Or.inl hbetween
        · exact Or.inr ⟨found, List.mem_cons_of_mem piece hfound, hc⟩

/-- Every character stands in some cell, unless it is the separator. -/
theorem mem_cells {c : Char} {s : Text} (h : c ∈ s) (hc : c ≠ sep) : ∃ cell ∈ cells sep s, c ∈ cell := by
  rw [← glue_cells sep s] at h
  exact (mem_glue h).resolve_left fun hsep => hc (List.mem_singleton.1 hsep)

end Text

end Multiples
