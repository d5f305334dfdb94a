import Multiples.Lifecycle.StopSignal

/-!
# Starting up and stopping

Two tasks share one stop signal.  The main task starts the watcher, makes the server, subscribes to the signal,
serves until it has to stop, and ends.  The watcher waits for the system to ask for termination, then sends the
signal and ends; its handle goes with it.  The tasks take turns in any order.

* `Startup.act?` is the next action of a task, if it can act;
* `Startup.run?` carries out turns in a given order.
-/

namespace Multiples

/-- How far the main task has come. -/
inductive MainStage where
  | starting
  | watched
  | made
  | subscribed (listener : Nat)
  | serving (listener : Nat)
  | ended
deriving DecidableEq, Repr

/-- How far the watcher has come. -/
inductive WatcherStage where
  | unborn
  | waiting
  | asked
  | triggered
  | ended
deriving DecidableEq, Repr

/-- The two tasks and their signal. -/
structure Startup where
  main : MainStage := .starting
  watcher : WatcherStage := .unborn
  signal : StopSignal := {}
deriving DecidableEq, Repr

/-- Who takes a turn: one of the tasks, or the system, which asks for termination. -/
inductive Turn where
  | main
  | watcher
  | termination
deriving DecidableEq, Repr

namespace Startup

/-- The place of the handle of the watcher; the one before it is that of the main task. -/
def watcherHandle : Nat := 1

/-- The next action of the main task.  While it serves, its turn is a look for the signal. -/
def actMain? (s : Startup) : Option Startup :=
  match s.main with
  | .starting => some { s with main := .watched, watcher := .waiting, signal := s.signal.clone }
  | .watched => some { s with main := .made }
  | .made => some { s with main := .subscribed s.signal.listeners.length, signal := s.signal.subscribe }
  | .subscribed listener => some { s with main := .serving listener }
  | .serving listener =>
    let polled := s.signal.poll listener
    some { s with main := if polled.2 = .stopped then .ended else .serving listener, signal := polled.1 }
  | .ended => none

/-- The next action of the watcher once it has been asked for termination. -/
def actWatcher? (s : Startup) : Option Startup :=
  match s.watcher with
  | .asked => some { s with watcher := .triggered, signal := s.signal.trigger }
  | .triggered => some { s with watcher := .ended, signal := s.signal.dropHandle watcherHandle }
  | _ => none

/-- The system asks for termination; only a watcher that waits takes notice. -/
def ask? (s : Startup) : Option Startup :=
  match s.watcher with
  | .waiting => some { s with watcher := .asked }
  | _ => none

/-- One turn. -/
def act? (s : Startup) : Turn → Option Startup
  | .main => s.actMain?
  | .watcher => s.actWatcher?
  | .termination => s.ask?

/-- Turns in order. -/
def run? (s : Startup) (turns : List Turn) : Option Startup := turns.foldlM act? s

end Startup

end Multiples
