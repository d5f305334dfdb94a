import Multiples.Lifecycle.StopSignal

/-!
# What listeners find

The signal keeps one message and counts how many were sent; a listener keeps a number.  Whether a listener stops is
nevertheless settled by what was done since it subscribed, and by nothing else.

* `StopSignal.history` — steps with their answers, from a signal with one handle;
* `History.Open`, `History.Listens`, `History.Called` — which handles and listeners are there, and which listeners
  have been called, said of a history alone;
* `StopSignal.Reflects` — the invariant: the state tells the same as the history does.  **A listener has been called
  exactly if the number of sent messages has passed its own**;
* `Reflects.step`, `reflects_history` — every step keeps it, and so does every run;
* `StopSignal.poll_after_history` — the main statement.
-/

namespace Multiples

namespace StopSignal

/-! ### Histories -/

/-- Steps in order, each with what came of it. -/
abbrev History := List (Step × Answer)

/-- What was done with a signal that began with one handle. -/
def history (steps : List Step) : History := steps.zip (run {} steps).2

/-- What comes of one more step. -/
def answerTo (steps : List Step) (step : Step) : Answer := ((run {} steps).1.step step).2

namespace History

/-- Whether there ever was a handle at a place: the first one, or one that was cloned. -/
def Made (past : History) (h : Nat) : Prop := h = 0 ∨ ∃ g, (.clone g, .place h) ∈ past

/-- Whether a handle was dropped. -/
def Dropped (past : History) (h : Nat) : Prop := (.dropHandle h, .dropped) ∈ past

/-- Whether a handle is there. -/
def Open (past : History) (h : Nat) : Prop := past.Made h ∧ ¬ past.Dropped h

/-- Whether there ever was a listener at a place. -/
def Subscribed (past : History) (l : Nat) : Prop := ∃ h, (.subscribe h, .place l) ∈ past

/-- Whether a listener was dropped or has stopped. -/
def Gone (past : History) (l : Nat) : Prop := (.dropListener l, .dropped) ∈ past ∨ (.poll l, .stopped) ∈ past

/-- Whether a listener is there. -/
def Listens (past : History) (l : Nat) : Prop := past.Subscribed l ∧ ¬ past.Gone l

/-- Whether the signal was triggered through an open handle after a listener had subscribed. -/
def Called (past : History) (l : Nat) : Prop :=
  ∃ (before : History) (g : Nat) (answer : Answer) (later : History),
    past = before ++ (.trigger g, answer) :: later ∧ before.Subscribed l ∧ before.Open g

variable {past : History} {step : Step} {answer : Answer} {h l : Nat}

@[simp] theorem made_concat :
    Made (past ++ [(step, answer)]) h ↔ past.Made h ∨ ∃ g, step = .clone g ∧ answer = .place h := by
  simp [Made, exists_or, or_assoc, eq_comm]

@[simp] theorem dropped_concat :
    Dropped (past ++ [(step, answer)]) h ↔ past.Dropped h ∨ (step = .dropHandle h ∧ answer = .dropped) := by
  simp [Dropped, eq_comm]

@[simp] theorem subscribed_concat :
    Subscribed (past ++ [(step, answer)]) l ↔ past.Subscribed l ∨ ∃ g, step = .subscribe g ∧ answer = .place l := by
  simp [Subscribed, exists_or, eq_comm]

@[simp] theorem gone_concat : Gone (past ++ [(step, answer)]) l
    ↔ past.Gone l ∨ (step = .dropListener l ∧ answer = .dropped) ∨ (step = .poll l ∧ answer = .stopped) := by
  simp only [Gone, List.mem_append, List.mem_singleton, Prod.mk.injEq, eq_comm]
  exact or_or_or_comm

theorem Subscribed.append (hl : past.Subscribed l) (later : History) : Subscribed (past ++ later) l := by
  obtain ⟨g, hg⟩ := hl
  exact ⟨g, List.mem_append_left later hg⟩

theorem Called.subscribed (hl : past.Called l) : past.Subscribed l := by
  obtain ⟨before, g, answer, later, rfl, hsubscribed, -⟩ := hl
  exact hsubscribed.append _

/-- One more step calls a listener only if it is a trigger through an open handle. -/
@[simp] theorem called_concat : Called (past ++ [(step, answer)]) l
    ↔ past.Called l ∨ (past.Subscribed l ∧ ∃ g, step = .trigger g ∧ past.Open g) := by
  constructor
  · intro hcalled
    obtain ⟨before, g, told, later, hpast, hsubscribed, hopen⟩ := hcalled
    -- the trigger is the new step, or one of those before it
    rcases List.eq_nil_or_concat later with rfl | ⟨later, last, rfl⟩
    · obtain ⟨rfl, hlast⟩ := List.append_inj' hpast rfl
      cases hlast
      exact Or.inr ⟨hsubscribed, g, rfl, hopen⟩
    · rw [List.concat_eq_append, ← List.cons_append, ← List.append_assoc] at hpast
      obtain ⟨rfl, -⟩ := List.append_inj' hpast rfl
      exact Or.inl ⟨before, g, told, later, rfl, hsubscribed, hopen⟩
  · intro hcases
    rcases hcases with ⟨before, g, told, later, rfl, hsubscribed, hopen⟩ | ⟨hsubscribed, g, rfl, hopen⟩
    · exact ⟨before, g, told, later ++ [(step, answer)], by simp, hsubscribed, hopen⟩
    · exact ⟨past, g, answer, [], rfl, hsubscribed, hopen⟩

end History

/-! ### Looking for the message -/

section Looking

variable {s : StopSignal} {l next : Nat}

theorem anyHandle_iff : s.anyHandle = true ↔ ∃ h, s.isLive h = true := by
  rw [anyHandle, List.any_eq_true]
  constructor
  · intro hany
    obtain ⟨live, hmem, hlive⟩ := hany
    obtain ⟨i, hi⟩ := List.getElem?_of_mem hmem
    exact ⟨i, by rw [isLive, hi]; exact hlive⟩
  · intro hany
    obtain ⟨i, hi⟩ := hany
    cases hhandle : s.handles[i]? with
    | none =>
      rw [isLive, hhandle] at hi
      exact nomatch hi
    | some live =>
      rw [isLive, hhandle] at hi
      exact ⟨live, List.mem_of_getElem? hhandle, hi⟩

/-- A listener finds nothing if its message is not sent yet and a handle is left that could send it. -/
theorem receive_eq_nothing_iff :
    s.receive next = .nothing ↔ s.sent ≤ next ∧ s.anyHandle = true := by
  rw [receive]
  split
  · rename_i hle
    cases s.anyHandle <;> simp [hle]
  · rename_i hlt
    split <;> simp [hlt]

theorem poll_of_nothing (hl : s.listeners[l]? = some (some next)) (hnothing : s.receive next = .nothing) :
    s.poll l = (s, .waiting) := by
  rw [poll, hl]
  exact if_pos hnothing

theorem poll_of_something (hl : s.listeners[l]? = some (some next)) (hsomething : s.receive next ≠ .nothing) :
    s.poll l = (s.dropListener l, .stopped) := by
  rw [poll, hl]
  exact if_neg hsomething

end Looking

/-! ### The state and the history -/

/-- The state of a signal tells what its history does: which handles and listeners there were, which of them are
gone, and which of the listeners have been called since they subscribed. -/
structure Reflects (s : StopSignal) (past : History) : Prop where
  made : ∀ h, past.Made h ↔ h < s.handles.length
  dropped : ∀ h, past.Dropped h ↔ s.handles[h]? = some false
  subscribed : ∀ l, past.Subscribed l ↔ l < s.listeners.length
  gone : ∀ l, past.Gone l ↔ s.listeners[l]? = some none
  called : ∀ l next, s.listeners[l]? = some (some next) → next ≤ s.sent ∧ (past.Called l ↔ next < s.sent)

/-- What stands in a list with one more entry at its end. -/
theorem getElem?_concat_eq_some_iff {α : Type} {xs : List α} {x y : α} {i : Nat} :
    (xs ++ [x])[i]? = some y ↔ xs[i]? = some y ∨ (i = xs.length ∧ x = y) := by
  rcases Nat.lt_trichotomy i xs.length with hlt | rfl | hgt
  · rw [List.getElem?_append_left hlt]
    simp [Nat.ne_of_lt hlt]
  · simp
  · rw [List.getElem?_eq_none (by simp; omega), List.getElem?_eq_none (by omega)]
    simp [Nat.ne_of_gt hgt]

namespace Reflects

variable {s : StopSignal} {past : History}

theorem initial : Reflects {} [] where
  made h := by simp [History.Made]
  dropped h := by cases h <;> simp [History.Dropped]
  subscribed l := by simp [History.Subscribed]
  gone l := by simp [History.Gone]
  called l next h := by simp at h

theorem open_iff (r : Reflects s past) (h : Nat) : past.Open h ↔ s.isLive h = true := by
  rw [History.Open, r.made, r.dropped, isLive]
  cases hhandle : s.handles[h]? with
  | none => simp [List.getElem?_eq_none_iff.1 hhandle]
  | some live =>
    have hlt := (List.getElem?_eq_some_iff.1 hhandle).1
    cases live <;> simp [hlt]

theorem listens_iff (r : Reflects s past) (l : Nat) : past.Listens l ↔ ∃ next, s.listeners[l]? = some (some next) := by
  rw [History.Listens, r.subscribed, r.gone]
  cases hlistener : s.listeners[l]? with
  | none => simp [List.getElem?_eq_none_iff.1 hlistener]
  | some listener =>
    have hlt := (List.getElem?_eq_some_iff.1 hlistener).1
    cases listener <;> simp [hlt]

/-- A step that does nothing leaves the state to tell the same. -/
theorem idle (r : Reflects s past) {step : Step} {answer : Answer}
    (hanswer : answer = .noHandle ∨ answer = .noListener ∨ answer = .gone ∨ answer = .waiting)
    (hstep : ∀ g, step = .trigger g → ¬ past.Open g) : Reflects s (past ++ [(step, answer)]) where
  made h := by rcases hanswer with rfl | rfl | rfl | rfl <;> simpa using r.made h
  dropped h := by rcases hanswer with rfl | rfl | rfl | rfl <;> simpa using r.dropped h
  subscribed l := by rcases hanswer with rfl | rfl | rfl | rfl <;> simpa using r.subscribed l
  gone l := by rcases hanswer with rfl | rfl | rfl | rfl <;> simpa using r.gone l
  called l next h := by
    have hnone : ¬ ∃ g, step = .trigger g ∧ past.Open g := by
      intro hsome
      obtain ⟨g, hg, hopen⟩ := hsome
      exact hstep g hg hopen
    simpa [hnone] using r.called l next h

/-- A handle is cloned. -/
theorem clone (r : Reflects s past) (g : Nat) : Reflects s.clone (past ++ [(.clone g, .place s.handles.length)]) where
  made h := by
    simp [r.made h]
    omega
  dropped h := by simp [r.dropped h, getElem?_concat_eq_some_iff]
  subscribed l := by simpa using r.subscribed l
  gone l := by simpa using r.gone l
  called l next h := by simpa using r.called l next h

/-- A listener subscribes; it has not been called yet. -/
theorem subscribe (r : Reflects s past) (g : Nat) :
    Reflects s.subscribe (past ++ [(.subscribe g, .place s.listeners.length)]) where
  made h := by simpa using r.made h
  dropped h := by simpa using r.dropped h
  subscribed l := by
    simp [r.subscribed l]
    omega
  gone l := by simp [r.gone l, getElem?_concat_eq_some_iff]
  called l next h := by
    rw [listeners_subscribe, getElem?_concat_eq_some_iff] at h
    rcases h with hold | ⟨rfl, hnew⟩
    · simpa using r.called l next hold
    · cases hnew
      have hnot : ¬ past.Called s.listeners.length := by
        intro hcalled
        exact Nat.lt_irrefl _ ((r.subscribed _).1 hcalled.subscribed)
      simpa using hnot

/-- The signal is triggered: whoever listens has been called now. -/
theorem trigger (r : Reflects s past) {g : Nat} (hopen : past.Open g) (n : Nat) :
    Reflects s.trigger (past ++ [(.trigger g, .reached n)]) where
  made h := by simpa using r.made h
  dropped h := by simpa using r.dropped h
  subscribed l := by simpa using r.subscribed l
  gone l := by simpa using r.gone l
  called l next h := by
    rw [listeners_trigger] at h
    obtain ⟨hle, -⟩ := r.called l next h
    have hsubscribed : past.Subscribed l := ((r.listens_iff l).2 ⟨next, h⟩).1
    -- a message that nobody listens for is not counted; here `l` does
    have hlistening : s.listening ≠ 0 := by
      have hmem : some next ∈ s.listeners := List.mem_of_getElem? h
      exact Nat.ne_of_gt (List.countP_pos_iff.2 ⟨some next, hmem, rfl⟩)
    have hsent : s.trigger.sent = s.sent + 1 := by rw [StopSignal.trigger, if_neg hlistening]
    rw [hsent]
    simp [hsubscribed, hopen]
    omega

/-- A handle is dropped. -/
theorem dropHandle (r : Reflects s past) {g : Nat} (hopen : past.Open g) :
    Reflects (s.dropHandle g) (past ++ [(.dropHandle g, .dropped)]) where
  made h := by simpa using r.made h
  dropped h := by
    have hlt : g < s.handles.length := (r.made g).1 hopen.1
    by_cases hsame : g = h
    · subst hsame
      simp [hlt]
    · simp [hsame, r.dropped h, List.getElem?_set_ne]
  subscribed l := by simpa using r.subscribed l
  gone l := by simpa using r.gone l
  called l next h := by simpa using r.called l next h

/-- A listener goes, because it is dropped or because it stops. -/
theorem leave (r : Reflects s past) {l : Nat} (hl : l < s.listeners.length) {step : Step} {answer : Answer}
    (hgone : (step = .dropListener l ∧ answer = .dropped) ∨ (step = .poll l ∧ answer = .stopped)) :
    Reflects (s.dropListener l) (past ++ [(step, answer)]) where
  made h := by rcases hgone with ⟨rfl, rfl⟩ | ⟨rfl, rfl⟩ <;> simpa using r.made h
  dropped h := by rcases hgone with ⟨rfl, rfl⟩ | ⟨rfl, rfl⟩ <;> simpa using r.dropped h
  subscribed k := by rcases hgone with ⟨rfl, rfl⟩ | ⟨rfl, rfl⟩ <;> simpa using r.subscribed k
  gone k := by
    by_cases hsame : l = k
    · subst hsame
      simp [hgone, hl]
    · rcases hgone with ⟨rfl, rfl⟩ | ⟨rfl, rfl⟩ <;> simp [hsame, r.gone k, List.getElem?_set_ne]
  called k next h := by
    have hkept : s.listeners[k]? = some (some next) := by
      by_cases hsame : l = k
      · subst hsame
        simp [hl] at h
      · rwa [listeners_dropListener, List.getElem?_set_ne hsame] at h
    rcases hgone with ⟨rfl, rfl⟩ | ⟨rfl, rfl⟩ <;> simpa using r.called k next hkept

/-- What is tried through a handle that is not there. -/
theorem refused (r : Reflects s past) {g : Nat} (hclosed : ¬ s.isLive g = true) (done : StopSignal × Answer)
    {step : Step} (hstep : ∀ k, step = .trigger k → k = g) :
    Reflects (s.through g done).1 (past ++ [(step, (s.through g done).2)]) := by
  rw [through, if_neg hclosed]
  refine r.idle (Or.inl rfl) fun k hk hopen => hclosed ?_
  rw [← hstep k hk]
  exact (r.open_iff k).1 hopen

/-- **Every step keeps it.** -/
theorem step (r : Reflects s past) (step : Step) :
    Reflects (s.step step).1 (past ++ [(step, (s.step step).2)]) := by
  cases step with
  | clone g =>
    by_cases hlive : s.isLive g = true
    · rw [StopSignal.step, through, if_pos hlive]
      exact r.clone g
    · exact r.refused hlive _ fun k hk => nomatch hk
  | subscribe g =>
    by_cases hlive : s.isLive g = true
    · rw [StopSignal.step, through, if_pos hlive]
      exact r.subscribe g
    · exact r.refused hlive _ fun k hk => nomatch hk
  | trigger g =>
    by_cases hlive : s.isLive g = true
    · rw [StopSignal.step, through, if_pos hlive]
      exact r.trigger ((r.open_iff g).2 hlive) _
    · exact r.refused hlive _ fun k hk => (Step.trigger.inj hk).symm
  | dropHandle g =>
    by_cases hlive : s.isLive g = true
    · rw [StopSignal.step, through, if_pos hlive]
      exact r.dropHandle ((r.open_iff g).2 hlive)
    · exact r.refused hlive _ fun k hk => nomatch hk
  | dropListener l =>
    by_cases hl : l < s.listeners.length
    · rw [StopSignal.step, if_pos hl]
      exact r.leave hl (Or.inl ⟨rfl, rfl⟩)
    · rw [StopSignal.step, if_neg hl]
      exact r.idle (Or.inr (Or.inl rfl)) fun k hk => nomatch hk
  | poll l =>
    rw [StopSignal.step]
    cases hlistener : s.listeners[l]? with
    | none =>
      rw [poll, hlistener]
      exact r.idle (Or.inr (Or.inl rfl)) fun k hk => nomatch hk
    | some listener =>
      cases listener with
      | none =>
        rw [poll, hlistener]
        exact r.idle (Or.inr (Or.inr (Or.inl rfl))) fun k hk => nomatch hk
      | some next =>
        by_cases hnothing : s.receive next = .nothing
        · rw [poll_of_nothing hlistener hnothing]
          exact r.idle (Or.inr (Or.inr (Or.inr rfl))) fun k hk => nomatch hk
        · rw [poll_of_something hlistener hnothing]
          exact r.leave (List.getElem?_eq_some_iff.1 hlistener).1 (Or.inr ⟨rfl, rfl⟩)

/-- **So does every run.** -/
theorem run (r : Reflects s past) (steps : List Step) :
    Reflects (s.run steps).1 (past ++ steps.zip (s.run steps).2) := by
  induction steps generalizing s past with
  | nil => simpa [StopSignal.run] using r
  | cons step more ih =>
    have hmore := ih (r.step step)
    rwa [List.append_assoc, List.singleton_append] at hmore

end Reflects

theorem reflects_history (steps : List Step) : Reflects (run {} steps).1 (history steps) :=
  Reflects.initial.run steps

/-! ### Runs and their histories -/

theorem run_append (s : StopSignal) (a b : List Step) :
    s.run (a ++ b) = (((s.run a).1.run b).1, (s.run a).2 ++ ((s.run a).1.run b).2) := by
  induction a generalizing s with
  | nil => rfl
  | cons step a ih =>
    rw [List.cons_append, run, run, ih]
    rfl

theorem length_answers (s : StopSignal) (steps : List Step) : (s.run steps).2.length = steps.length := by
  induction steps generalizing s with
  | nil => rfl
  | cons step more ih =>
    rw [run, List.length_cons, ih, List.length_cons]

/-- A history grows by each step and its answer. -/
theorem history_concat (steps : List Step) (step : Step) :
    history (steps ++ [step]) = history steps ++ [(step, answerTo steps step)] := by
  rw [history, run_append, List.zip_append (length_answers {} steps).symm]
  rfl

/-! ### What a listener finds -/

theorem answerTo_poll {steps : List Step} {l : Nat} (hl : (history steps).Listens l) :
    (answerTo steps (.poll l) = .stopped ∧ ((history steps).Called l ∨ ∀ h, ¬ (history steps).Open h))
    ∨ (answerTo steps (.poll l) = .waiting ∧ ¬ (history steps).Called l ∧ ∃ h, (history steps).Open h) := by
  have r := reflects_history steps
  obtain ⟨next, hnext⟩ := (r.listens_iff l).1 hl
  obtain ⟨hle, hcalled⟩ := r.called l next hnext
  have hopen : (run {} steps).1.anyHandle = true ↔ ∃ h, (history steps).Open h := by
    rw [anyHandle_iff]
    exact exists_congr fun h => (r.open_iff h).symm
  by_cases hnothing : (run {} steps).1.receive next = .nothing
  · rw [answerTo, step, poll_of_nothing hnext hnothing]
    obtain ⟨hsent, hany⟩ := receive_eq_nothing_iff.1 hnothing
    have hnot : ¬ (history steps).Called l := fun h => Nat.not_lt_of_le hsent (hcalled.1 h)
    exact Or.inr ⟨rfl, hnot, hopen.1 hany⟩
  · rw [answerTo, step, poll_of_something hnext hnothing]
    refine Or.inl ⟨rfl, ?_⟩
    rw [receive_eq_nothing_iff, hopen] at hnothing
    by_cases hsent : next < (run {} steps).1.sent
    · exact Or.inl (hcalled.2 hsent)
    · exact Or.inr fun h hh => hnothing ⟨by omega, h, hh⟩

theorem answerTo_poll_eq_stopped_iff {steps : List Step} {l : Nat} (hl : (history steps).Listens l) :
    answerTo steps (.poll l) = .stopped ↔ (history steps).Called l ∨ ∀ h, ¬ (history steps).Open h := by
  rcases answerTo_poll hl with ⟨hanswer, hwhy⟩ | ⟨hanswer, hnot, hsome⟩
  · exact iff_of_true hanswer hwhy
  · refine iff_of_false (by rw [hanswer]; exact Answer.noConfusion) ?_
    rw [not_or, ← not_exists, Classical.not_not]
    exact ⟨hnot, hsome⟩

/-! ### What further steps change -/

/-- Handles come from handles. -/
theorem exists_open_of_concat {steps : List Step} {step : Step} {h : Nat} (hopen : (history (steps ++ [step])).Open h) :
    ∃ g, (history steps).Open g := by
  rw [history_concat] at hopen
  obtain ⟨hmade, hkept⟩ := hopen
  rw [History.dropped_concat, not_or] at hkept
  rcases History.made_concat.1 hmade with hbefore | ⟨g, rfl, hplace⟩
  · exact ⟨h, hbefore, hkept.1⟩
  · by_cases hlive : (run {} steps).1.isLive g = true
    · exact ⟨g, ((reflects_history steps).open_iff g).2 hlive⟩
    · rw [answerTo, StopSignal.step, through, if_neg hlive] at hplace
      exact nomatch hplace

/-- What every further step keeps, all further steps keep. -/
theorem append_keeps (P : List Step → Prop) (hstep : ∀ steps step, P steps → P (steps ++ [step])) {steps : List Step}
    (h : P steps) (more : List Step) : P (steps ++ more) := by
  induction more generalizing steps with
  | nil => rwa [List.append_nil]
  | cons step more ih =>
    rw [List.append_cons]
    exact ih (hstep steps step h)

theorem not_open_append {steps : List Step} (hnone : ∀ h, ¬ (history steps).Open h) (more : List Step) :
    ∀ h, ¬ (history (steps ++ more)).Open h := by
  refine append_keeps (fun steps => ∀ h, ¬ (history steps).Open h) (fun steps step hnone h hopen => ?_) hnone more
  obtain ⟨g, hg⟩ := exists_open_of_concat hopen
  exact hnone g hg

theorem called_append {steps : List Step} {l : Nat} (hcalled : (history steps).Called l) (more : List Step) :
    (history (steps ++ more)).Called l := by
  refine append_keeps (fun steps => (history steps).Called l) (fun steps step hcalled => ?_) hcalled more
  rw [history_concat]
  exact History.called_concat.2 (Or.inl hcalled)

theorem listens_concat {steps : List Step} {step : Step} {l : Nat} (hl : (history steps).Listens l)
    (hdrop : step ≠ .dropListener l) (hpoll : ¬ (step = .poll l ∧ answerTo steps step = .stopped)) :
    (history (steps ++ [step])).Listens l := by
  rw [history_concat]
  refine ⟨hl.1.append _, ?_⟩
  rw [History.gone_concat]
  intro hgone
  rcases hgone with hbefore | ⟨hdropped, -⟩ | hstopped
  · exact hl.2 hbefore
  · exact hdrop hdropped
  · exact hpoll hstopped

/-! ### Main statement -/

/-- **A listener stops if it was called, or if nobody is left to call it.**  After any steps at all, a look of a
listener that is there finds the stop exactly if the signal was triggered, through any open handle, since the listener
subscribed, or if no handle is open; else it goes on waiting and stays.  What it would find is changed by no further
step but a trigger through an open handle, the drop of the last one, and its own; and once it would stop, no further
steps can take that away. -/
theorem poll_after_history (steps : List Step) (l : Nat) (hl : (history steps).Listens l) :
    (answerTo steps (.poll l) = .stopped ↔ (history steps).Called l ∨ ∀ h, ¬ (history steps).Open h)
    ∧ (answerTo steps (.poll l) ≠ .stopped →
        answerTo steps (.poll l) = .waiting ∧ (history (steps ++ [.poll l])).Listens l)
    ∧ (∀ step, step ≠ .dropListener l → step ≠ .poll l → (∀ g, step = .trigger g → ¬ (history steps).Open g) →
        ((∃ h, (history steps).Open h) → ∃ h, (history (steps ++ [step])).Open h) →
        answerTo (steps ++ [step]) (.poll l) = answerTo steps (.poll l))
    ∧ (∀ more, (history (steps ++ more)).Listens l → answerTo steps (.poll l) = .stopped →
        answerTo (steps ++ more) (.poll l) = .stopped) := by
  refine ⟨answerTo_poll_eq_stopped_iff hl, ?_, ?_, ?_⟩
  · intro hgoes
    have hstays : (history (steps ++ [.poll l])).Listens l := listens_concat hl (nomatch ·) fun h => hgoes h.2
    rcases answerTo_poll hl with ⟨hanswer, -⟩ | ⟨hanswer, -⟩
    · exact absurd hanswer hgoes
    · exact ⟨hanswer, hstays⟩
  · intro step hdrop hpoll htrigger hkept
    have hlater := listens_concat hl hdrop fun h => hpoll h.1
    have hcalled : (history (steps ++ [step])).Called l ↔ (history steps).Called l := by
      rw [history_concat, History.called_concat]
      constructor
      · intro hcases
        rcases hcases with hbefore | ⟨-, g, hg, hopen⟩
        · exact hbefore
        · exact absurd hopen (htrigger g hg)
      · exact Or.inl
    have hopen : (∃ h, (history (steps ++ [step])).Open h) ↔ ∃ h, (history steps).Open h :=
      ⟨fun ⟨_, h⟩ => exists_open_of_concat h, hkept⟩
    rcases answerTo_poll hl with ⟨hanswer, hwhy⟩ | ⟨hanswer, hnot, hsome⟩
    · rw [hanswer, answerTo_poll_eq_stopped_iff hlater, hcalled, ← not_exists, hopen, not_exists]
      exact hwhy
    · rcases answerTo_poll hlater with ⟨-, hwhy⟩ | ⟨hlater, -⟩
      · rw [hcalled, ← not_exists, hopen] at hwhy
        exact hwhy.elim (absurd · hnot) (absurd hsome)
      · rw [hanswer, hlater]
  · intro more hlater hstopped
    rw [answerTo_poll_eq_stopped_iff hlater]
    exact ((answerTo_poll_eq_stopped_iff hl).1 hstopped).imp (called_append · more) (not_open_append · more)

/-- Handles change hands, and three triggers are missed between two looks. -/
def missedTriggers : List Step :=
  [.trigger 0, .subscribe 0, .poll 0, .clone 0, .dropHandle 0, .subscribe 1, .trigger 0, .trigger 1, .trigger 1,
    .trigger 1, .poll 1]

theorem poll_of_missedTriggers : (history missedTriggers).Listens 0 ∧ answerTo missedTriggers (.poll 0) = .stopped := by
  have hl : (history missedTriggers).Listens 0 := ⟨⟨0, by decide⟩, by unfold History.Gone; decide⟩
  refine ⟨hl, (poll_after_history missedTriggers 0 hl).1.2 (Or.inl ?_)⟩
  refine ⟨(history missedTriggers).take 7, 1, .reached 2, (history missedTriggers).drop 8, by decide, ⟨0, by decide⟩, ?_⟩
  exact ⟨Or.inr ⟨0, by decide⟩, by unfold History.Dropped; decide⟩

end StopSignal

end Multiples
