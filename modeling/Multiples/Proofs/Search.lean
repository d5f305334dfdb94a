import Multiples.Text.Basic

/-!
# First occurrences, piece by piece

A search goes through a document that was written piece by piece.  What it finds is settled by the pieces
before the occurrence, as long as none of them can begin one.

* `Text.Skips` — no occurrence of a mark begins in a piece, **whatever follows the piece**; an occurrence that
  begins in one piece and ends in the next is thereby excluded too;
* `Text.Skips.append` — pieces that are skipped make up pieces that are skipped;
* `Text.Skips.cut?_eq` — the first occurrence is the one right after a skipped piece;
* `Text.skips_of_not_mem` — a piece without the first character of the mark is skipped;
* `Text.cut?_eq_some_iff` — what is found is an occurrence, and no other one begins before it.
-/

namespace Multiples

namespace Text

/-! ### Skipped pieces -/

/-- A search for the mark passes over the piece `s`, whatever follows it. -/
def Skips (mark s : Text) : Prop :=
  ∀ rest, cut? mark (s ++ rest) = (cut? mark rest).map fun found => (s ++ found.1, found.2)

theorem skips_nil (mark : Text) : Skips mark [] := by
  intro rest
  cases h : cut? mark rest <;> simp [h]

/-- Skipped pieces may be put together. -/
theorem Skips.append {mark s t : Text} (hs : Skips mark s) (ht : Skips mark t) : Skips mark (s ++ t) := by
  intro rest
  rw [List.append_assoc, hs, ht]
  cases h : cut? mark rest <;> simp

/-- One more character in front: no occurrence begins right there. -/
theorem Skips.cons {mark s : Text} {c : Char} (hc : ∀ rest, after? mark (c :: (s ++ rest)) = none)
    (hs : Skips mark s) : Skips mark (c :: s) := by
  intro rest
  show cut? mark (c :: (s ++ rest)) = _
  simp only [cut?, hc, hs rest]
  cases h : cut? mark rest <;> simp

/-- A piece is skipped if it does not have the character that the mark begins with. -/
theorem skips_of_not_mem {m : Char} {mark s : Text} (h : m ∉ s) : Skips (m :: mark) s := by
  induction s with
  | nil => exact skips_nil _
  | cons c s ih =>
    have hne : m ≠ c := fun e => h (e ▸ List.mem_cons_self)
    refine Skips.cons (fun rest => ?_) (ih fun hm => h (List.mem_cons_of_mem c hm))
    rw [after?, if_neg hne]

/-! ### What a search finds -/

theorem cut?_self_append (mark rest : Text) : cut? mark (mark ++ rest) = some ([], rest) := by
  have hafter : after? mark (mark ++ rest) = some rest := after?_eq_some.2 rfl
  cases hs : mark ++ rest with
  | nil =>
    rw [hs] at hafter
    simp [cut?, hafter]
  | cons c s =>
    rw [hs] at hafter
    simp [cut?, hafter]

/-- **The first occurrence is the one right after a skipped piece.** -/
theorem Skips.cut?_eq {mark s : Text} (h : Skips mark s) (rest : Text) :
    cut? mark (s ++ (mark ++ rest)) = some (s, rest) := by
  rw [h, cut?_self_append]
  simp

/-- A document that is skipped as a whole has no occurrence. -/
theorem Skips.cut?_eq_none {m : Char} {mark s : Text} (h : Skips (m :: mark) s) : cut? (m :: mark) s = none := by
  have hnil : cut? (m :: mark) [] = none := rfl
  have := h []
  rwa [List.append_nil, hnil, Option.map_none] at this

/-! ### The first of all occurrences -/

/-- No occurrence of a mark in a text begins before a place, which is counted in characters. -/
def ClearBefore (place : Nat) (mark s : Text) : Prop :=
  ∀ before after, s = before ++ (mark ++ after) → place ≤ before.length

section First

variable {mark s front rest : Text}

/-- Where a mark occurs, it is found there or earlier. -/
theorem exists_cut? (mark before after : Text) :
    ∃ front rest, cut? mark (before ++ (mark ++ after)) = some (front, rest) ∧ front.length ≤ before.length := by
  induction before with
  | nil => exact ⟨[], after, cut?_self_append mark after, Nat.le_refl _⟩
  | cons c before ih =>
    rw [List.cons_append, cut?]
    cases after? mark (c :: (before ++ (mark ++ after))) with
    | some r => exact ⟨[], r, rfl, Nat.zero_le _⟩
    | none =>
      obtain ⟨front, rest, hcut, hle⟩ := ih
      exact ⟨c :: front, rest, by rw [hcut]; rfl, Nat.succ_le_succ hle⟩

theorem cut?_eq_none_iff : cut? mark s = none ↔ ∀ before after, s ≠ before ++ (mark ++ after) := by
  constructor
  · rintro h before after rfl
    obtain ⟨front, rest, hcut, -⟩ := exists_cut? mark before after
    rw [h] at hcut
    exact nomatch hcut
  · intro h
    cases hcut : cut? mark s with
    | none => rfl
    | some found => exact absurd (by rw [cut?_eq_some hcut, List.append_assoc]) (h found.1 found.2)

theorem clearBefore_of_cut? (h : cut? mark s = some (front, rest)) : ClearBefore front.length mark s := by
  rintro before after rfl
  obtain ⟨front', rest', hcut, hle⟩ := exists_cut? mark before after
  rw [h] at hcut
  cases hcut
  exact hle

/-- **What is found is the first occurrence:** what stands before it and after it, and no occurrence begins before. -/
theorem cut?_eq_some_iff :
    cut? mark s = some (front, rest) ↔ s = front ++ (mark ++ rest) ∧ ClearBefore front.length mark s := by
  constructor
  · intro h
    exact ⟨by rw [cut?_eq_some h, List.append_assoc], clearBefore_of_cut? h⟩
  · rintro ⟨hs, hclear⟩
    obtain ⟨front', rest', hcut, hle⟩ := exists_cut? mark front rest
    rw [← hs] at hcut
    have hsame : s = front' ++ (mark ++ rest') := by rw [cut?_eq_some hcut, List.append_assoc]
    -- neither place is before the other one
    have hlength : front'.length = front.length := Nat.le_antisymm hle (hclear front' rest' hsame)
    obtain ⟨rfl, hrest⟩ := List.append_inj (hsame.symm.trans hs) hlength
    rw [hcut, List.append_cancel_left hrest]

/-- A single character that is not found is nowhere. -/
theorem not_mem_of_cut?_eq_none {m : Char} (h : cut? [m] s = none) : m ∉ s := by
  intro hmem
  obtain ⟨before, after, hsame⟩ := List.append_of_mem hmem
  exact cut?_eq_none_iff.1 h before after hsame

/-- A single character is found where it first stands. -/
theorem not_mem_of_cut?_eq_some {m : Char} (h : cut? [m] s = some (front, rest)) : m ∉ front := by
  intro hmem
  obtain ⟨before, between, rfl⟩ := List.append_of_mem hmem
  have hearlier := clearBefore_of_cut? h before (between ++ m :: rest) (by rw [cut?_eq_some h]; simp)
  rw [List.length_append, List.length_cons] at hearlier
  omega

end First

/-! ### Runs of one kind of character -/

variable {kind : Char → Bool} {a b rest : Text}

/-- A run ends where a character of another kind follows it. -/
theorem takeWhile_run (ha : a.all kind = true) (hrest : ∀ c, rest.head? = some c → kind c = false) :
    (a ++ rest).takeWhile kind = a := by
  rw [List.takeWhile_append_of_pos (List.all_eq_true.1 ha)]
  cases rest with
  | nil => exact List.append_nil a
  | cons c rest => rw [List.takeWhile_cons_of_neg (by simp [hrest c rfl]), List.append_nil]

theorem dropWhile_run (ha : a.all kind = true) (hrest : ∀ c, rest.head? = some c → kind c = false) :
    (a ++ rest).dropWhile kind = rest := by
  rw [List.dropWhile_append_of_pos (List.all_eq_true.1 ha)]
  cases rest with
  | nil => rfl
  | cons c rest => rw [List.dropWhile_cons_of_neg (by simp [hrest c rfl])]

theorem takeWhile_all (ha : a.all kind = true) : a.takeWhile kind = a := by
  have hrun : (a ++ []).takeWhile kind = a := takeWhile_run ha nofun
  rwa [List.append_nil] at hrun

theorem dropWhile_all (ha : a.all kind = true) : a.dropWhile kind = [] := by
  have hrun : (a ++ []).dropWhile kind = [] := dropWhile_run ha nofun
  rwa [List.append_nil] at hrun

/-- Every text begins with a run, which may be empty. -/
theorem exists_run (kind : Char → Bool) (s : Text) :
    ∃ front rest, s = front ++ rest ∧ front.all kind = true ∧ ∀ c, rest.head? = some c → kind c = false := by
  refine ⟨s.takeWhile kind, s.dropWhile kind, List.takeWhile_append_dropWhile.symm, List.all_takeWhile, ?_⟩
  intro c hc
  have hhead := List.head?_dropWhile_not kind s
  rwa [hc] at hhead

/-- Where two runs of one kind of character end, they are the same run. -/
theorem run_inj {x y : Char} {s t : Text} (ha : a.all kind = true) (hb : b.all kind = true)
    (hx : kind x = false) (hy : kind y = false) (h : a ++ x :: s = b ++ y :: t) : a = b ∧ x = y ∧ s = t := by
  have hleft : (a ++ x :: s).takeWhile kind = a := takeWhile_run ha fun c hc => Option.some.inj hc ▸ hx
  have hright : (b ++ y :: t).takeWhile kind = b := takeWhile_run hb fun c hc => Option.some.inj hc ▸ hy
  have hab : a = b := by rw [← hleft, h, hright]
  rw [hab, List.append_right_inj, List.cons.injEq] at h
  exact ⟨hab, h⟩

end Text

end Multiples
