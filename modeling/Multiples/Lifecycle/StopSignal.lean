/-!
# The stop signal

One message, "stop", from any of several handles to any number of listeners.  The signal keeps only the message sent
last; a listener knows which message it waits for, so that it sees every message sent after it subscribed, or learns
that it missed some, which stops it as well.  A listener also stops when no handle is left that could send.

* `StopSignal.step` carries out one step and answers it;
* `StopSignal.trigger` counts the listeners that a message reaches;
* `StopSignal.receive` says what a listener finds.
-/

namespace Multiples

/-- The handles and the listeners of one signal, each known by its place; a handle may be dropped, and a listener may
be gone. -/
structure StopSignal where
  sent : Nat := 0
  handles : List Bool := [true]
  listeners : List (Option Nat) := []
deriving DecidableEq, Repr

namespace StopSignal

/-! ### Looking -/

/-- Whether there is a handle at a place. -/
def isLive (s : StopSignal) (handle : Nat) : Bool := s.handles[handle]?.getD false

/-- Whether any handle is left. -/
def anyHandle (s : StopSignal) : Bool := s.handles.any id

/-- How many listeners there are. -/
def listening (s : StopSignal) : Nat := s.listeners.countP Option.isSome

/-- What a listener finds when it looks. -/
inductive Receipt where
  | message
  | missed
  | closed
  | nothing
deriving DecidableEq, Repr

/-- What a listener finds that waits for a message of a number. -/
def receive (s : StopSignal) (next : Nat) : Receipt :=
  if s.sent ≤ next then (if s.anyHandle then .nothing else .closed)
  else if next + 1 = s.sent then .message
  else .missed

/-! ### Changing -/

/-- Adds a handle. -/
def clone (s : StopSignal) : StopSignal := { s with handles := s.handles ++ [true] }

/-- Adds a listener, which waits for the next message. -/
def subscribe (s : StopSignal) : StopSignal := { s with listeners := s.listeners ++ [some s.sent] }

/-- Sends the message; it is lost if nobody listens. -/
def trigger (s : StopSignal) : StopSignal := if s.listening = 0 then s else { s with sent := s.sent + 1 }

/-- Drops a handle. -/
def dropHandle (s : StopSignal) (handle : Nat) : StopSignal := { s with handles := s.handles.set handle false }

/-- Drops a listener. -/
def dropListener (s : StopSignal) (listener : Nat) : StopSignal :=
  { s with listeners := s.listeners.set listener none }

/-! ### Steps -/

/-- What can be done with a signal, through a handle or with a listener. -/
inductive Step where
  | clone (handle : Nat)
  | subscribe (handle : Nat)
  | trigger (handle : Nat)
  | dropHandle (handle : Nat)
  | dropListener (listener : Nat)
  | poll (listener : Nat)
deriving DecidableEq, Repr

/-- What comes of a step. -/
inductive Answer where
  | place (i : Nat)
  | reached (listeners : Nat)
  | dropped
  | stopped
  | waiting
  | gone
  | noHandle
  | noListener
deriving DecidableEq, Repr

/-- Looks whether a listener has to stop; if so, it is done and gone. -/
def poll (s : StopSignal) (listener : Nat) : StopSignal × Answer :=
  match s.listeners[listener]? with
  | none => (s, .noListener)
  | some none => (s, .gone)
  | some (some next) =>
    if s.receive next = .nothing then (s, .waiting) else (s.dropListener listener, .stopped)

/-- Does something through a handle, if it is there. -/
def through (s : StopSignal) (handle : Nat) (done : StopSignal × Answer) : StopSignal × Answer :=
  if s.isLive handle then done else (s, .noHandle)

/-- Carries out one step. -/
def step (s : StopSignal) : Step → StopSignal × Answer
  | .clone h => s.through h (s.clone, .place s.handles.length)
  | .subscribe h => s.through h (s.subscribe, .place s.listeners.length)
  | .trigger h => s.through h (s.trigger, .reached s.listening)
  | .dropHandle h => s.through h (s.dropHandle h, .dropped)
  | .dropListener l => if l < s.listeners.length then (s.dropListener l, .dropped) else (s, .noListener)
  | .poll l => s.poll l

/-- Carries out steps in order, with the answer to each. -/
def run (s : StopSignal) : List Step → StopSignal × List Answer
  | [] => (s, [])
  | step :: more =>
    let first := s.step step
    let rest := run first.1 more
    (rest.1, first.2 :: rest.2)

/-! ### What each change leaves as it is -/

section Changes

variable (s : StopSignal) (place : Nat)

@[simp] theorem handles_clone : s.clone.handles = s.handles ++ [true] := rfl
@[simp] theorem listeners_clone : s.clone.listeners = s.listeners := rfl
@[simp] theorem sent_clone : s.clone.sent = s.sent := rfl

@[simp] theorem handles_subscribe : s.subscribe.handles = s.handles := rfl
@[simp] theorem listeners_subscribe : s.subscribe.listeners = s.listeners ++ [some s.sent] := rfl
@[simp] theorem sent_subscribe : s.subscribe.sent = s.sent := rfl

@[simp] theorem handles_trigger : s.trigger.handles = s.handles := by unfold trigger; split <;> rfl
@[simp] theorem listeners_trigger : s.trigger.listeners = s.listeners := by unfold trigger; split <;> rfl

@[simp] theorem handles_dropHandle : (s.dropHandle place).handles = s.handles.set place false := rfl
@[simp] theorem listeners_dropHandle : (s.dropHandle place).listeners = s.listeners := rfl
@[simp] theorem sent_dropHandle : (s.dropHandle place).sent = s.sent := rfl

@[simp] theorem handles_dropListener : (s.dropListener place).handles = s.handles := rfl
@[simp] theorem listeners_dropListener : (s.dropListener place).listeners = s.listeners.set place none := rfl
@[simp] theorem sent_dropListener : (s.dropListener place).sent = s.sent := rfl

end Changes

end StopSignal

end Multiples
