import Multiples.Lifecycle.Startup
import Multiples.Proofs.Listening

/-!
# Whether a request to terminate comes through

The main task starts the watcher before it subscribes to the signal that the watcher sends, and the tasks take turns in
any order.  A signal that is sent first reaches nobody, and the open handle of the main task keeps the server waiting
for another one, which nobody is left to send.

* `Startup.Noticed` — the stop is consumed, or the server finds it at its next look;
* `Startup.Quiet`, `Startup.Called`, `Startup.Missed` — what holds before the watcher sends, and afterwards, as the
  main task had subscribed by then or not; every turn keeps each of them (`Quiet.act?`, `Called.act?`, `Missed.act?`);
* `Startup.noticed_iff_subscribesFirst` — **the stop comes through exactly if the subscription comes first**;
* `Startup.termination_missed` — an order of turns in which the stop is lost for good.
-/

namespace Multiples

/-- Whether the main task has come to serving, and maybe to its end. -/
def MainStage.hasServed : MainStage → Bool
  | .serving _ => true
  | .ended => true
  | _ => false

/-- Whether the watcher has sent the signal, and maybe come to its end. -/
def WatcherStage.hasTriggered : WatcherStage → Bool
  | .triggered => true
  | .ended => true
  | _ => false

namespace Startup

/-- Whether the stop has come through: the main task has ended by it, or finds it as soon as it looks. -/
def Noticed (s : Startup) : Prop := s.main = .ended ∨ ∃ l, s.main = .serving l ∧ (s.signal.poll l).2 = .stopped

/-- Whether the main task takes its third turn, by which it subscribes, before the watcher takes its first one, by
which it sends the signal. -/
def SubscribesFirst (turns : List Turn) : Prop := 3 ≤ (turns.takeWhile (· != .watcher)).count .main

/-! ### Runs -/

section Runs

variable {s s' : Startup} {turns : List Turn}

theorem run?_cons {turn : Turn} : run? s (turn :: turns) = (s.act? turn).bind fun t => t.run? turns := rfl

theorem run?_append (more : List Turn) : run? s (turns ++ more) = (run? s turns).bind fun t => t.run? more :=
  List.foldlM_append

/-- What every turn keeps, a run keeps. -/
theorem run?_keeps {P : Startup → Prop} (hstep : ∀ s s' turn, P s → s.act? turn = some s' → P s') (hs : P s)
    (hrun : run? s turns = some s') : P s' := by
  induction turns generalizing s with
  | nil =>
    cases hrun
    exact hs
  | cons turn turns ih =>
    rw [run?_cons] at hrun
    obtain ⟨t, hturn, hrest⟩ := Option.bind_eq_some_iff.1 hrun
    exact ih (hstep s t turn hs hturn) hrest

end Runs

/-! ### Before the signal is sent -/

/-- The main task and the signal after some turns of the main task, as long as nothing was sent: it starts the
watcher, makes the server, subscribes, serves, and then only looks. -/
def mainAfter : Nat → MainStage × StopSignal
  | 0 => (.starting, {})
  | 1 => (.watched, { handles := [true, true] })
  | 2 => (.made, { handles := [true, true] })
  | 3 => (.subscribed 0, { handles := [true, true], listeners := [some 0] })
  | _ => (.serving 0, { handles := [true, true], listeners := [some 0] })

/-- Nothing was sent yet, and the main task has taken some turns. -/
structure Quiet (n : Nat) (s : Startup) : Prop where
  main : (s.main, s.signal) = mainAfter n
  unborn : n = 0 → s.watcher = .unborn
  born : n ≠ 0 → s.watcher = .waiting ∨ s.watcher = .asked

theorem quiet_initial : Quiet 0 {} where
  main := rfl
  unborn _ := rfl
  born h := absurd rfl h

variable {s s' : Startup} {n : Nat}

/-- A turn of the main task before anything was sent. -/
theorem Quiet.actMain? (q : Quiet n s) (h : s.actMain? = some s') : Quiet (n + 1) s' := by
  obtain ⟨main, watcher, signal⟩ := s
  obtain ⟨hmain, hunborn, hborn⟩ := q
  match n with
  | 0 =>
    -- this turn brings the watcher into being; all later ones leave it alone
    cases hmain
    cases h
    exact ⟨rfl, (nomatch ·), fun _ => Or.inl rfl⟩
  | 1 =>
    cases hmain
    cases h
    exact ⟨rfl, (nomatch ·), fun _ => hborn (by decide)⟩
  | 2 =>
    cases hmain
    cases h
    exact ⟨rfl, (nomatch ·), fun _ => hborn (by decide)⟩
  | 3 =>
    cases hmain
    cases h
    exact ⟨rfl, (nomatch ·), fun _ => hborn (by decide)⟩
  | n + 4 =>
    cases hmain
    cases h
    exact ⟨rfl, (nomatch ·), fun _ => hborn (by omega)⟩

theorem Quiet.ask? (q : Quiet n s) (h : s.ask? = some s') : Quiet n s' := by
  rw [Startup.ask?] at h
  split at h
  · cases h
    rename_i hwaiting
    refine ⟨q.main, fun hn => ?_, fun _ => Or.inr rfl⟩
    rw [q.unborn hn] at hwaiting
    exact nomatch hwaiting
  · exact nomatch h

/-- As long as the watcher takes no turn, nothing is sent, and the main task is as far as its turns take it. -/
theorem Quiet.run? {turns : List Turn} (q : Quiet n s) (hturns : .watcher ∉ turns) (h : s.run? turns = some s') :
    Quiet (n + turns.count .main) s' := by
  induction turns generalizing s n with
  | nil =>
    cases h
    exact q
  | cons turn turns ih =>
    rw [run?_cons] at h
    obtain ⟨t, hturn, hrest⟩ := Option.bind_eq_some_iff.1 h
    rw [List.mem_cons, not_or] at hturns
    cases turn with
    | main =>
      have hquiet := ih (q.actMain? hturn) hturns.2 hrest
      rwa [List.count_cons_self, ← Nat.add_assoc, Nat.add_right_comm]
    | watcher => exact absurd rfl hturns.1
    | termination =>
      have hquiet := ih (q.ask? hturn) hturns.2 hrest
      rwa [List.count_cons_of_ne (by decide)]

/-! ### After the signal was sent -/

/-- The signal was sent to the subscribed server, which has consumed it or has it before it. -/
structure Called (s : Startup) : Prop where
  triggered : s.watcher.hasTriggered = true
  reached : s.main = .ended
    ∨ ((s.main = .subscribed 0 ∨ s.main = .serving 0) ∧ s.signal.listeners[0]? = some (some 0) ∧ s.signal.sent = 1)

/-- The signal was sent before there was a server to reach. -/
structure Missed (s : Startup) : Prop where
  triggered : s.watcher.hasTriggered = true
  unsent : s.signal.sent = 0
  held : s.signal.handles[0]? = some true
  unreached : ((s.main = .watched ∨ s.main = .made) ∧ s.signal.listeners = [])
    ∨ ((s.main = .subscribed 0 ∨ s.main = .serving 0) ∧ s.signal.listeners[0]? = some (some 0))

/-- The turn that sends the signal reaches the main task if it has subscribed, and is lost otherwise. -/
theorem Quiet.actWatcher? (q : Quiet n s) (h : s.actWatcher? = some s') : (3 ≤ n → Called s') ∧ (n < 3 → Missed s') := by
  obtain ⟨main, watcher, signal⟩ := s
  obtain ⟨hmain, hunborn, hborn⟩ := q
  have hasked : watcher = .asked ∧ n ≠ 0 := by
    by_cases hn : n = 0
    · have hwatcher : watcher = .unborn := hunborn hn
      subst hwatcher
      exact nomatch h
    · rcases hborn hn with hwatcher | hwatcher
      · have hwaiting : watcher = .waiting := hwatcher
        subst hwaiting
        exact nomatch h
      · exact ⟨hwatcher, hn⟩
  obtain ⟨rfl, hn⟩ := hasked
  match n with
  | 0 => exact absurd rfl hn
  | 1 =>
    cases hmain
    cases h
    exact ⟨fun h => absurd h (by decide), fun _ => ⟨rfl, rfl, rfl, Or.inl ⟨Or.inl rfl, rfl⟩⟩⟩
  | 2 =>
    cases hmain
    cases h
    exact ⟨fun h => absurd h (by decide), fun _ => ⟨rfl, rfl, rfl, Or.inl ⟨Or.inr rfl, rfl⟩⟩⟩
  | 3 =>
    cases hmain
    cases h
    exact ⟨fun _ => ⟨rfl, Or.inr ⟨Or.inl rfl, rfl, rfl⟩⟩, fun h => absurd h (by decide)⟩
  | n + 4 =>
    cases hmain
    cases h
    exact ⟨fun _ => ⟨rfl, Or.inr ⟨Or.inr rfl, rfl, rfl⟩⟩, fun h => absurd h (by omega)⟩

/-- Once it has sent the signal, all that the watcher does is to end. -/
theorem act?_watcher_of_triggered (htriggered : s.watcher.hasTriggered = true) (h : s.act? .watcher = some s') :
    s' = { s with watcher := .ended, signal := s.signal.dropHandle watcherHandle } := by
  obtain ⟨main, watcher, signal⟩ := s
  cases watcher with
  | triggered =>
    cases h
    rfl
  | ended => exact nomatch h
  | unborn => exact nomatch htriggered
  | waiting => exact nomatch htriggered
  | asked => exact nomatch htriggered

theorem act?_termination_of_triggered (htriggered : s.watcher.hasTriggered = true) : s.act? .termination = none := by
  obtain ⟨main, watcher, signal⟩ := s
  cases watcher with
  | triggered => rfl
  | ended => rfl
  | unborn => exact nomatch htriggered
  | waiting => exact nomatch htriggered
  | asked => exact nomatch htriggered

/-- A server that was called finds the message. -/
theorem poll_of_called (hl : s.signal.listeners[0]? = some (some 0)) (hsent : s.signal.sent = 1) :
    s.signal.poll 0 = (s.signal.dropListener 0, .stopped) := by
  refine StopSignal.poll_of_something hl ?_
  rw [Ne, StopSignal.receive_eq_nothing_iff, hsent]
  omega

/-- A server that was missed finds nothing. -/
theorem poll_of_missed (hl : s.signal.listeners[0]? = some (some 0)) (hsent : s.signal.sent = 0)
    (hheld : s.signal.handles[0]? = some true) : s.signal.poll 0 = (s.signal, .waiting) := by
  refine StopSignal.poll_of_nothing hl (StopSignal.receive_eq_nothing_iff.2 ⟨Nat.le_of_eq hsent, ?_⟩)
  exact StopSignal.anyHandle_iff.2 ⟨0, by rw [StopSignal.isLive, hheld]; rfl⟩

theorem Called.act? (c : Called s) {turn : Turn} (h : s.act? turn = some s') : Called s' := by
  obtain ⟨htriggered, hreached⟩ := c
  cases turn with
  | main =>
    change s.actMain? = some s' at h
    rcases hreached with hended | ⟨hsubscribed | hserving, hl, hsent⟩
    · rw [actMain?, hended] at h
      exact nomatch h
    · rw [actMain?, hsubscribed] at h
      cases h
      exact ⟨htriggered, Or.inr ⟨Or.inr rfl, hl, hsent⟩⟩
    · simp only [actMain?, hserving, poll_of_called hl hsent] at h
      cases h
      exact ⟨htriggered, Or.inl rfl⟩
  | watcher =>
    rw [act?_watcher_of_triggered htriggered h]
    exact ⟨rfl, hreached⟩
  | termination =>
    rw [act?_termination_of_triggered htriggered] at h
    exact nomatch h

theorem Missed.act? (m : Missed s) {turn : Turn} (h : s.act? turn = some s') : Missed s' := by
  obtain ⟨htriggered, hunsent, hheld, hunreached⟩ := m
  cases turn with
  | main =>
    change s.actMain? = some s' at h
    rcases hunreached with ⟨hwatched | hmade, hl⟩ | ⟨hsubscribed | hserving, hl⟩
    · rw [actMain?, hwatched] at h
      cases h
      exact ⟨htriggered, hunsent, hheld, Or.inl ⟨Or.inr rfl, hl⟩⟩
    · -- it subscribes, but only for what is sent after this
      rw [actMain?, hmade] at h
      cases h
      refine ⟨htriggered, hunsent, hheld, Or.inr ⟨Or.inl ?_, ?_⟩⟩
      · show MainStage.subscribed s.signal.listeners.length = .subscribed 0
        rw [hl]
        rfl
      · show (s.signal.listeners ++ [some s.signal.sent])[0]? = some (some 0)
        rw [hl, hunsent]
        rfl
    · rw [actMain?, hsubscribed] at h
      cases h
      exact ⟨htriggered, hunsent, hheld, Or.inr ⟨Or.inr rfl, hl⟩⟩
    · simp only [actMain?, hserving, poll_of_missed hl hunsent hheld] at h
      cases h
      exact ⟨htriggered, hunsent, hheld, Or.inr ⟨Or.inr rfl, hl⟩⟩
  | watcher =>
    rw [act?_watcher_of_triggered htriggered h]
    refine ⟨rfl, hunsent, ?_, hunreached⟩
    show (s.signal.handles.set 1 false)[0]? = some true
    rw [List.getElem?_set_ne (by decide), hheld]
  | termination =>
    rw [act?_termination_of_triggered htriggered] at h
    exact nomatch h

theorem Called.noticed (c : Called s) (hserved : s.main.hasServed = true) : Noticed s := by
  rcases c.reached with hended | ⟨hsubscribed | hserving, hl, hsent⟩
  · exact Or.inl hended
  · rw [hsubscribed] at hserved
    exact nomatch hserved
  · exact Or.inr ⟨0, hserving, by rw [poll_of_called hl hsent]⟩

theorem Missed.not_noticed (m : Missed s) : ¬ Noticed s := by
  intro hnoticed
  rcases hnoticed with hended | ⟨l, hserving, hstopped⟩
  · have hunreached := m.unreached
    rw [hended] at hunreached
    simp at hunreached
  · rcases m.unreached with ⟨hearly | hearly, -⟩ | ⟨hearly | hlate, hl⟩
    · exact nomatch hserving.symm.trans hearly
    · exact nomatch hserving.symm.trans hearly
    · exact nomatch hserving.symm.trans hearly
    · cases hserving.symm.trans hlate
      rw [poll_of_missed hl m.unsent m.held] at hstopped
      exact nomatch hstopped

/-! ### Whole runs -/

theorem exists_after_watcher {turns : List Turn} (h : .watcher ∈ turns) :
    ∃ after, turns = turns.takeWhile (· != .watcher) ++ .watcher :: after := by
  induction turns with
  | nil => exact nomatch h
  | cons turn turns ih =>
    by_cases hturn : turn = .watcher
    · subst hturn
      exact ⟨turns, rfl⟩
    · obtain ⟨after, hafter⟩ := ih ((List.mem_cons.1 h).resolve_left (Ne.symm hturn))
      refine ⟨after, ?_⟩
      rw [List.takeWhile_cons_of_pos (by simpa using hturn), List.cons_append, ← hafter]

/-- **The order of two turns decides**: whether the watcher took its first before or after the main task's third. -/
theorem called_or_missed {turns : List Turn} (hrun : run? {} turns = some s) (htriggered : s.watcher.hasTriggered = true) :
    (SubscribesFirst turns → Called s) ∧ (¬ SubscribesFirst turns → Missed s) := by
  have hmem : .watcher ∈ turns := by
    refine Classical.byContradiction fun hnone => ?_
    have hquiet := quiet_initial.run? hnone hrun
    by_cases hzero : 0 + turns.count .main = 0
    · rw [hquiet.unborn hzero] at htriggered
      exact nomatch htriggered
    · rcases hquiet.born hzero with h | h
      · rw [h] at htriggered
        exact nomatch htriggered
      · rw [h] at htriggered
        exact nomatch htriggered
  -- nothing is sent before the first turn of the watcher; that turn settles which of the two holds, and both last
  obtain ⟨after, hturns⟩ := exists_after_watcher hmem
  have hbefore : .watcher ∉ turns.takeWhile (· != .watcher) := by
    intro hmem
    have hall := List.all_eq_true.1 (List.all_takeWhile (p := (· != .watcher)) (l := turns)) _ hmem
    exact Bool.false_ne_true hall
  rw [hturns, run?_append] at hrun
  obtain ⟨t, ht, hrest⟩ := Option.bind_eq_some_iff.1 hrun
  obtain ⟨u, hu, hafter⟩ := Option.bind_eq_some_iff.1 hrest
  have hquiet := quiet_initial.run? hbefore ht
  rw [Nat.zero_add] at hquiet
  have hsent := hquiet.actWatcher? hu
  constructor
  · intro hfirst
    exact run?_keeps (fun _ _ _ c h => c.act? h) (hsent.1 hfirst) hafter
  · intro hlate
    exact run?_keeps (fun _ _ _ m h => m.act? h) (hsent.2 (Nat.lt_of_not_le hlate)) hafter

/-! ### Main statements -/

/-- **A request to terminate comes through exactly if the server subscribes first.**  In whatever order the turns are
taken, once the watcher has sent the signal and the main task serves, the main task has ended by the signal or finds
it at its next look exactly if it had subscribed before the signal was sent; otherwise it never will, whatever turns
follow. -/
theorem noticed_iff_subscribesFirst (turns : List Turn) (s : Startup) (hrun : run? {} turns = some s)
    (htriggered : s.watcher.hasTriggered = true) (hserved : s.main.hasServed = true) :
    (Noticed s ↔ SubscribesFirst turns)
    ∧ (¬ SubscribesFirst turns → ∀ more s', run? s more = some s' → ¬ Noticed s') := by
  have hfate := called_or_missed hrun htriggered
  refine ⟨⟨fun hnoticed => ?_, fun hfirst => (hfate.1 hfirst).noticed hserved⟩, fun hlate more s' hmore => ?_⟩
  · exact Classical.byContradiction fun hlate => (hfate.2 hlate).not_noticed hnoticed
  · exact (run?_keeps (fun _ _ _ m h => m.act? h) (hfate.2 hlate) hmore).not_noticed

/-- Termination is asked for as soon as the watcher waits, and the signal sent right after the subscription. -/
def earlySubscription : List Turn := [.main, .termination, .main, .main, .watcher, .main, .watcher]

theorem noticed_earlySubscription :
    ∃ s, run? {} earlySubscription = some s ∧ s.watcher = .ended ∧ s.main = .serving 0 ∧ Noticed s := by
  refine ⟨_, rfl, rfl, rfl, ?_⟩
  exact (noticed_iff_subscribesFirst earlySubscription _ rfl rfl rfl).1.2 (by unfold SubscribesFirst; decide)

/-- Termination is asked for, and the signal sent, while the server is still being made. -/
def lateSubscription : List Turn := [.main, .termination, .watcher, .watcher, .main, .main, .main]

/-- A request to terminate can be missed: the watcher has sent the signal and ended, the server serves, and whatever
turns are taken from then on, the server neither ends nor has a stop before it. -/
theorem termination_missed :
    ∃ s, run? {} lateSubscription = some s ∧ s.watcher = .ended ∧ s.main = .serving 0 ∧ ¬ Noticed s
      ∧ ∀ more s', run? s more = some s' → ¬ Noticed s' := by
  refine ⟨_, rfl, rfl, rfl, ?_⟩
  have hlate : ¬ SubscribesFirst lateSubscription := by
    unfold SubscribesFirst
    decide
  have hrun : run? {} lateSubscription = some _ := rfl
  have hmissed := (called_or_missed hrun rfl).2 hlate
  refine ⟨hmissed.not_noticed, fun more s' hmore => ?_⟩
  exact (run?_keeps (fun _ _ _ m h => m.act? h) hmissed hmore).not_noticed

end Startup

end Multiples
