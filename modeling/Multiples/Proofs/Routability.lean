import Multiples.Config.Load
import Multiples.Proofs.Cells
import Multiples.Proofs.Complaints
import Multiples.Proofs.Responses

/-!
# Which accepted configurations can be served

The rules for settings ask for a literal path, and the server refuses a path with a placeholder of the old kind in it.
The two were not made for each other: the rules look for braces and question marks, while such a placeholder is a segment
that begins with a colon or an asterisk.

* `Text.HasSegment` — a path has a segment that begins with a mark;
* `Server.isRoutable_iff` — a path can be routed if it begins with a slash, has no such segment, and is a pattern;
* `Server.isLiteral_of_validate` — the rules leave literal paths, which are patterns;
* `Server.ofConfig?_of_validate` — of the configurations that are accepted, exactly those with such a segment have
  no server;
* `Server.accepted_unservable` — there is such a configuration.
-/

namespace Multiples

namespace Text

/-! ### Segments of a path -/

/-- Whether a path has a segment that begins with a mark. -/
def HasSegment (mark : Char) (path : Text) : Prop := ∃ before after, path = before ++ '/' :: mark :: after

variable {mark c : Char} {s : Text}

theorem not_hasSegment_nil : ¬ HasSegment mark [] := by
  intro h
  obtain ⟨before, after, h⟩ := h
  simp at h

/-- The segment begins right after the first character, or later. -/
theorem hasSegment_cons : HasSegment mark (c :: s) ↔ (c = '/' ∧ s.head? = some mark) ∨ HasSegment mark s := by
  constructor
  · intro h
    obtain ⟨before, after, h⟩ := h
    cases before with
    | nil =>
      simp only [List.nil_append, List.cons.injEq] at h
      obtain ⟨rfl, rfl⟩ := h
      exact Or.inl ⟨rfl, rfl⟩
    | cons b before =>
      simp only [List.cons_append, List.cons.injEq] at h
      exact Or.inr ⟨before, after, h.2⟩
  · intro hcases
    rcases hcases with ⟨rfl, hhead⟩ | ⟨before, after, rfl⟩
    · obtain ⟨after, rfl⟩ := List.head?_eq_some_iff.1 hhead
      exact ⟨[], after, rfl⟩
    · exact ⟨c :: before, after, rfl⟩

/-- A text begins as its first cell does, unless it begins with the separator. -/
theorem head?_cells {sep : Char} (hmark : mark ≠ sep) {cell : Text} {more : List Text}
    (h : cells sep s = cell :: more) : s.head? = some mark ↔ cell.head? = some mark := by
  cases s with
  | nil =>
    cases h
    rfl
  | cons d s =>
    by_cases hd : d = sep
    · subst hd
      rw [cells_cons_self] at h
      cases h
      simp [Ne.symm hmark]
    · obtain ⟨rest, others, hrest⟩ := exists_cells sep s
      have hfront := cells_append_left (show sep ∉ [d] by simpa using Ne.symm hd) hrest
      rw [show d :: s = [d] ++ s from rfl, hfront] at h
      cases h
      rfl

/-- **The segments are the cells after the first slash.** -/
theorem hasSegment_iff_cells (hmark : mark ≠ '/') {cell : Text} {more : List Text}
    (h : cells '/' s = cell :: more) : HasSegment mark s ↔ ∃ segment ∈ more, segment.head? = some mark := by
  induction s generalizing cell more with
  | nil =>
    cases h
    simp [not_hasSegment_nil]
  | cons c s ih =>
    obtain ⟨rest, others, hrest⟩ := exists_cells '/' s
    have hsegments := ih hrest
    rw [hasSegment_cons, hsegments]
    by_cases hc : c = '/'
    · subst hc
      rw [cells_cons_self, hrest] at h
      cases h
      rw [head?_cells hmark hrest]
      simp
    · have hfront := cells_append_left (show '/' ∉ [c] by simpa using Ne.symm hc) hrest
      rw [show c :: s = [c] ++ s from rfl, hfront] at h
      cases h
      simp [hc]

end Text

namespace Server

/-! ### Paths that can be routed -/

/-- **A path can be routed** if it begins with a slash, no segment begins like an old placeholder, and it is a pattern. -/
theorem isRoutable_iff {path : Text} : isRoutable path = true
    ↔ path.head? = some '/' ∧ (¬ path.HasSegment ':' ∧ ¬ path.HasSegment '*') ∧ ∃ p, PathPattern.ofText? path = some p := by
  cases path with
  | nil => simp [isRoutable]
  | cons c s =>
    by_cases hc : c = '/'
    · subst hc
      have hcells : Text.cells '/' ('/' :: s) = [] :: Text.cells '/' s := Text.cells_cons_self s
      rw [Text.hasSegment_iff_cells (by decide) hcells, Text.hasSegment_iff_cells (by decide) hcells]
      show ((Text.cells '/' s).all (fun segment => segment.head? != some ':' && segment.head? != some '*')
        && (PathPattern.ofText? ('/' :: s)).isSome) = true ↔ _
      rw [Bool.and_eq_true, Option.isSome_iff_exists, List.head?_cons]
      simp only [List.all_eq_true, Bool.and_eq_true, bne_iff_ne, true_and, not_exists, not_and]
      apply and_congr_left'
      constructor
      · intro h
        exact ⟨fun segment hmem => (h segment hmem).1, fun segment hmem => (h segment hmem).2⟩
      · intro h segment hmem
        exact ⟨h.1 segment hmem, h.2 segment hmem⟩
    · simp [isRoutable, hc]

/-- A literal path is a pattern. -/
theorem isRoutable_iff_of_isLiteral {path : Text} (h : PathPattern.isLiteral path = true) :
    isRoutable path = true ↔ path.head? = some '/' ∧ ¬ path.HasSegment ':' ∧ ¬ path.HasSegment '*' := by
  have hpattern : ∃ p, PathPattern.ofText? path = some p := ⟨_, PathPattern.ofText?_of_isLiteral h⟩
  rw [isRoutable_iff, and_iff_left hpattern]

/-! ### Accepted configurations -/

/-- The path of an accepted configuration begins with a slash. -/
theorem head?_path_of_validate {c : Config} (h : c.validate = .ok c) : c.service.path.head? = some '/' := by
  have hpath : c.Obeys .path := Config.validate_eq_ok_iff.1 h .path
  exact hpath.1

/-- The path of an accepted configuration is a literal one. -/
theorem isLiteral_of_validate {c : Config} (h : c.validate = .ok c) : PathPattern.isLiteral c.service.path = true := by
  have hpath : c.Obeys .path := Config.validate_eq_ok_iff.1 h .path
  exact PathPattern.isLiteral_iff.2 ⟨hpath.2.2 '\x7b' (by simp), hpath.2.2 '\x7d' (by simp)⟩

theorem ofConfig?_eq_none_iff {c : Config} : ofConfig? c = none ↔ ¬ isRoutable c.service.path = true := by
  constructor
  · intro hnone hrouted
    rw [ofConfig?_eq_some hrouted] at hnone
    exact nomatch hnone
  · intro hrouted
    rw [ofConfig?, if_neg hrouted]

/-- **Of the accepted configurations, exactly those with a placeholder in their path cannot be served.**  All others
have the server that they describe. -/
theorem ofConfig?_of_validate (c : Config) (h : c.validate = .ok c) :
    (ofConfig? c = none ↔ c.service.path.HasSegment ':' ∨ c.service.path.HasSegment '*')
    ∧ (¬ c.service.path.HasSegment ':' → ¬ c.service.path.HasSegment '*' → ofConfig? c = some (configured c)) := by
  have hslash := head?_path_of_validate h
  have hliteral := isLiteral_of_validate h
  constructor
  · rw [ofConfig?_eq_none_iff, isRoutable_iff_of_isLiteral hliteral]
    constructor
    · intro hrouted
      by_cases hcolon : c.service.path.HasSegment ':'
      · exact Or.inl hcolon
      · exact Or.inr (Classical.byContradiction fun hasterisk => hrouted ⟨hslash, hcolon, hasterisk⟩)
    · intro hsegment hrouted
      exact hsegment.elim hrouted.2.1 hrouted.2.2
  · intro hcolon hasterisk
    exact ofConfig?_eq_some ((isRoutable_iff_of_isLiteral hliteral).2 ⟨hslash, hcolon, hasterisk⟩)

/-- A later segment stops a server as the first one does. -/
theorem ofConfig?_of_validate_later :
    ({ service := { path := "/f/*x".toList } } : Config).validate = .ok { service := { path := "/f/*x".toList } }
    ∧ ofConfig? { service := { path := "/f/*x".toList } } = none := by
  have hvalid : ({ service := { path := "/f/*x".toList } } : Config).validate = .ok { service := { path := "/f/*x".toList } } :=
    if_pos (by decide)
  have hsegment : Text.HasSegment '*' "/f/*x".toList := ⟨"/f".toList, "x".toList, by decide⟩
  exact ⟨hvalid, (ofConfig?_of_validate _ hvalid).1.2 (Or.inr hsegment)⟩

/-- Not every accepted configuration can be served: the path may have a placeholder that the rules do not know. -/
theorem accepted_unservable : ¬ ∀ c : Config, c.validate = .ok c → ∃ s, ofConfig? c = some s := by
  intro hservable
  have hvalid : ({ service := { path := "/:x".toList } } : Config).validate = .ok { service := { path := "/:x".toList } } :=
    if_pos (by decide)
  obtain ⟨s, hs⟩ := hservable _ hvalid
  have hnone : ofConfig? { service := { path := "/:x".toList } } = none := ofConfig?_eq_none_iff.2 (by decide)
  rw [hnone] at hs
  exact nomatch hs

end Server

end Multiples
