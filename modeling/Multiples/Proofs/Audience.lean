import Mathlib.Data.Finset.Card
import Multiples.Proofs.Listening

/-!
# Whom a trigger reaches

A trigger tells how many listeners it reaches.  The signal counts those that are there at that moment; the number is
nevertheless settled by what was done before, as all answers are.

* `History.subscribers`, `History.leavers` — the listeners that have subscribed, and those that were dropped or have
  stopped, as sets: whoever leaves twice is in them once;
* `Reflects.listening_add_leavers` — **nobody else is counted**: those who listen and those who left are those who
  subscribed;
* `History.Misses` — a step through a handle, or with a listener, that is not there;
* `Reflects.step_of_misses` — such a step leaves the signal as it is;
* `StopSignal.reached_after_history` — the main statement.
-/

namespace Multiples

namespace StopSignal

namespace History

/-! ### Coming and going -/

/-- The listener that came with a step. -/
def subscriber? : Step × Answer → Option Nat
  | (.subscribe _, .place l) => some l
  | _ => none

/-- The listener that went with a step, because it was dropped or because it stopped. -/
def leaver? : Step × Answer → Option Nat
  | (.dropListener l, .dropped) => some l
  | (.poll l, .stopped) => some l
  | _ => none

/-- All listeners that have subscribed. -/
def subscribers (past : History) : Finset Nat := (past.filterMap subscriber?).toFinset

/-- All listeners that were dropped or have stopped. -/
def leavers (past : History) : Finset Nat := (past.filterMap leaver?).toFinset

/-- Whether a step goes through a handle, or is one with a listener, that is not there. -/
def Misses (past : History) : Step → Prop
  | .clone h => ¬ past.Open h
  | .subscribe h => ¬ past.Open h
  | .trigger h => ¬ past.Open h
  | .dropHandle h => ¬ past.Open h
  | .dropListener l => ¬ past.Listens l
  | .poll l => ¬ past.Listens l

variable {past : History} {l : Nat}

theorem subscriber?_eq_some_iff {e : Step × Answer} :
    subscriber? e = some l ↔ ∃ h, e = (.subscribe h, .place l) := by
  obtain ⟨step, answer⟩ := e
  cases step <;> cases answer <;> simp [subscriber?]

theorem leaver?_eq_some_iff {e : Step × Answer} :
    leaver? e = some l ↔ e = (.dropListener l, .dropped) ∨ e = (.poll l, .stopped) := by
  obtain ⟨step, answer⟩ := e
  cases step <;> cases answer <;> simp [leaver?]

theorem mem_subscribers : l ∈ past.subscribers ↔ past.Subscribed l := by
  simp only [subscribers, List.mem_toFinset, List.mem_filterMap, subscriber?_eq_some_iff, Subscribed]
  constructor
  · rintro ⟨e, he, h, rfl⟩
    exact ⟨h, he⟩
  · rintro ⟨h, hh⟩
    exact ⟨_, hh, h, rfl⟩

theorem mem_leavers : l ∈ past.leavers ↔ past.Gone l := by
  simp only [leavers, List.mem_toFinset, List.mem_filterMap, leaver?_eq_some_iff, Gone]
  constructor
  · rintro ⟨e, he, rfl | rfl⟩
    · exact Or.inl he
    · exact Or.inr he
  · rintro (hdropped | hstopped)
    · exact ⟨_, hdropped, Or.inl rfl⟩
    · exact ⟨_, hstopped, Or.inr rfl⟩

end History

/-! ### Counting places -/

/-- The entries of a kind in a list are as many as the places where they stand. -/
theorem card_places {α : Type} (kind : α → Bool) (xs : List α) :
    ((Finset.range xs.length).filter fun i => xs[i]?.any kind = true).card = xs.countP kind := by
  show ((List.range xs.length).filter fun i => decide (xs[i]?.any kind = true)).length = _
  rw [← List.countP_eq_length_filter]
  induction xs with
  | nil => rfl
  | cons x xs ih =>
    rw [List.length_cons, List.range_succ_eq_map, List.countP_cons, List.countP_map, List.countP_cons, ← ih]
    simp [Function.comp_def]

namespace Reflects

variable {s : StopSignal} {past : History}

theorem leavers_subset (r : Reflects s past) : past.leavers ⊆ past.subscribers := by
  intro l hl
  rw [History.mem_leavers, r.gone] at hl
  rw [History.mem_subscribers, r.subscribed]
  exact (List.getElem?_eq_some_iff.1 hl).1

/-- Those who listen are those who subscribed and did not leave. -/
theorem listening_eq (r : Reflects s past) : s.listening = (past.subscribers \ past.leavers).card := by
  rw [listening, ← card_places]
  congr 1
  ext l
  rw [Finset.mem_sdiff, History.mem_subscribers, History.mem_leavers, r.subscribed, r.gone, Finset.mem_filter,
    Finset.mem_range]
  refine and_congr_right fun hlt => ?_
  rw [List.getElem?_eq_getElem hlt]
  cases s.listeners[l] <;> simp

/-- **Nobody else is counted:** those who listen and those who left are those who subscribed. -/
theorem listening_add_leavers (r : Reflects s past) : s.listening + past.leavers.card = past.subscribers.card := by
  rw [r.listening_eq]
  exact Finset.card_sdiff_add_card_eq_card r.leavers_subset

/-! ### Steps that miss -/

theorem through_of_closed (r : Reflects s past) {h : Nat} (hclosed : ¬ past.Open h) (done : StopSignal × Answer) :
    (s.through h done).1 = s := by
  rw [r.open_iff] at hclosed
  rw [through, if_neg hclosed]

/-- A listener that is not there was never there, or its place is empty. -/
theorem absent (r : Reflects s past) {l : Nat} (habsent : ¬ past.Listens l) :
    s.listeners[l]? = none ∨ s.listeners[l]? = some none := by
  rw [r.listens_iff] at habsent
  cases hlistener : s.listeners[l]? with
  | none => exact Or.inl rfl
  | some listener =>
    cases listener with
    | none => exact Or.inr rfl
    | some next => exact absurd ⟨next, hlistener⟩ habsent

/-- **A step that misses leaves the signal as it is.** -/
theorem step_of_misses (r : Reflects s past) {step : Step} (hmisses : past.Misses step) : (s.step step).1 = s := by
  cases step with
  | clone h => exact r.through_of_closed hmisses _
  | subscribe h => exact r.through_of_closed hmisses _
  | trigger h => exact r.through_of_closed hmisses _
  | dropHandle h => exact r.through_of_closed hmisses _
  | dropListener l =>
    rw [StopSignal.step]
    rcases r.absent hmisses with hnever | hempty
    · rw [if_neg (Nat.not_lt_of_le (List.getElem?_eq_none_iff.1 hnever))]
    · -- an empty place is emptied once more
      obtain ⟨hlt, hplace⟩ := List.getElem?_eq_some_iff.1 hempty
      have hsame : s.listeners.set l none = s.listeners := by
        rw [← hplace]
        exact List.set_getElem_self hlt
      rw [if_pos hlt]
      show { s with listeners := s.listeners.set l none } = s
      rw [hsame]
  | poll l =>
    rw [StopSignal.step, poll]
    rcases r.absent hmisses with hnever | hempty
    · rw [hnever]
    · rw [hempty]

end Reflects

/-! ### Main statement -/

/-- A step that leaves the signal as it is may be left out. -/
theorem run_of_idle {s : StopSignal} {step : Step} (hidle : (s.step step).1 = s) (more : List Step) :
    (s.run (step :: more)).2 = (s.step step).2 :: (s.run more).2 := by
  rw [run, hidle]

/-- **A trigger reaches those who subscribed and have not left.**  After any steps at all, a trigger through any open
handle tells how many listeners have subscribed, less those that were dropped or have stopped, each of them once; how
often the signal was triggered, and what a listener has not looked at, plays no part.  And a step through a handle or
with a listener that is not there changes none of the answers that follow. -/
theorem reached_after_history (steps : List Step) :
    (∀ h, (history steps).Open h → answerTo steps (.trigger h)
      = .reached ((history steps).subscribers.card - (history steps).leavers.card))
    ∧ (history steps).leavers ⊆ (history steps).subscribers
    ∧ ∀ step, (history steps).Misses step → ∀ more, ∃ later,
        (run {} (steps ++ more)).2 = (run {} steps).2 ++ later
        ∧ (run {} (steps ++ step :: more)).2 = (run {} steps).2 ++ answerTo steps step :: later := by
  have r := reflects_history steps
  refine ⟨fun h hopen => ?_, r.leavers_subset, fun step hmisses more => ?_⟩
  · have hcount := r.listening_add_leavers
    rw [r.open_iff] at hopen
    rw [answerTo, step, through, if_pos hopen]
    show Answer.reached _ = _
    congr 1
    omega
  · refine ⟨((run {} steps).1.run more).2, by rw [run_append], ?_⟩
    rw [run_append, run_of_idle (r.step_of_misses hmisses)]
    rfl

/-- Three listeners: the first one stops and is then dropped twice, the second one has two messages to look at, the
third one comes after them through another handle, while the first handle is dropped. -/
def comingAndGoing : List Step :=
  [.subscribe 0, .subscribe 0, .clone 0, .trigger 1, .poll 0, .trigger 0, .dropListener 0, .dropListener 0,
    .subscribe 1, .dropHandle 0]

theorem reached_of_comingAndGoing : (history comingAndGoing).Open 1
    ∧ answerTo comingAndGoing (.trigger 1) = .reached 2
    ∧ (history comingAndGoing).Misses (.trigger 0)
    ∧ (run {} (comingAndGoing ++ [.trigger 0, .trigger 1])).2
      = (run {} comingAndGoing).2 ++ [.noHandle, .reached 2] := by
  have hopen : (history comingAndGoing).Open 1 := ⟨Or.inr ⟨0, by decide⟩, by unfold History.Dropped; decide⟩
  have hmisses : (history comingAndGoing).Misses (.trigger 0) := fun h => h.2 (by unfold History.Dropped; decide)
  obtain ⟨hreached, -, hidle⟩ := reached_after_history comingAndGoing
  obtain ⟨later, hwithout, hwith⟩ := hidle (.trigger 0) hmisses [.trigger 1]
  refine ⟨hopen, ?_, hmisses, ?_⟩
  · rw [hreached 1 hopen]
    decide
  · have hlater : later = [.reached 2] := List.append_cancel_left (hwithout.symm.trans (by decide))
    rw [hlater] at hwith
    exact hwith

end StopSignal

end Multiples
