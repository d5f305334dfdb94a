/-!
# Computations in stages

A computation that can fail is made of stages, and the first stage that fails decides how it fails.  These lemmas
take such a computation apart, so that no later proof has to unfold the monad.

* `Stages.bind_eq_ok_iff`, `Stages.bind_eq_error_iff` — two stages, the second one fed by the first;
* `Stages.mapError_eq_ok_iff`, `Stages.mapError_eq_error_iff` — one stage, its failures told in other words.
-/

namespace Multiples

namespace Stages

variable {ε δ α β : Type} {x : Except ε α}

/-- Two stages give a value if the first one does and the second one does with it. -/
theorem bind_eq_ok_iff {f : α → Except ε β} {b : β} :
    (x >>= f) = .ok b ↔ ∃ a, x = .ok a ∧ f a = .ok b := by
  cases x with
  | error e =>
    constructor
    · intro h
      exact nomatch h
    · intro hgiven
      obtain ⟨a, h, -⟩ := hgiven
      exact nomatch h
  | ok a =>
    constructor
    · intro h
      exact ⟨a, rfl, h⟩
    · intro hgiven
      obtain ⟨a', ha, h⟩ := hgiven
      cases ha
      exact h

/-- **The first stage that fails decides.** -/
theorem bind_eq_error_iff {f : α → Except ε β} {e : ε} :
    (x >>= f) = .error e ↔ x = .error e ∨ ∃ a, x = .ok a ∧ f a = .error e := by
  cases x with
  | error d =>
    constructor
    · intro h
      cases h
      exact Or.inl rfl
    · intro hcases
      rcases hcases with h | ⟨a, h, -⟩
      · cases h
        rfl
      · exact nomatch h
  | ok a =>
    constructor
    · intro h
      exact Or.inr ⟨a, rfl, h⟩
    · intro hcases
      rcases hcases with h | ⟨a', ha, h⟩
      · exact nomatch h
      · cases ha
        exact h

theorem mapError_eq_ok_iff {f : ε → δ} {a : α} : x.mapError f = .ok a ↔ x = .ok a := by
  cases x with
  | error e =>
    constructor
    · intro h
      exact nomatch h
    · intro h
      exact nomatch h
  | ok b =>
    constructor
    · intro h
      cases h
      rfl
    · intro h
      cases h
      rfl

theorem mapError_eq_error_iff {f : ε → δ} {d : δ} : x.mapError f = .error d ↔ ∃ e, x = .error e ∧ f e = d := by
  cases x with
  | error e =>
    constructor
    · intro h
      cases h
      exact ⟨e, rfl, rfl⟩
    · intro hgiven
      obtain ⟨e', he, hd⟩ := hgiven
      cases he
      rw [← hd]
      rfl
  | ok b =>
    constructor
    · intro h
      exact nomatch h
    · intro hgiven
      obtain ⟨e, h, -⟩ := hgiven
      exact nomatch h

end Stages

end Multiples
