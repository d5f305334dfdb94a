import Multiples.Http.Message
import Multiples.Net.Url.Basic

/-!
# Dialogs

A caller asks a server, sees what arrives, and may ask again.

* `Arrival` is what arrives after a request;
* `Dialog` is a caller: an outcome, or a request and how to go on after what arrives;
* `Dialog.replay` runs a dialog against arrivals given beforehand, and `Dialog.through` against a server that
  answers each request and may change by it;
* `Dialog.through_bind` — of two dialogs in a row, the second meets the server that the first one leaves.
-/

namespace Multiples

/-- What arrives after a request: nothing, or a status and the beginning of a body of which some bytes may be
missing. -/
inductive Arrival where
  | nothing
  | reply (status : Nat) (bytes : List UInt8) (missing : Nat)
deriving DecidableEq, Repr

/-- A caller that ends with an outcome. -/
inductive Dialog (α : Type) where
  | done (outcome : α)
  | ask (url : Url) (request : HttpRequest) (next : Arrival → Dialog α)

namespace Dialog

/-- Goes on with a second dialog after a first one. -/
def andThen {α β : Type} : Dialog α → (α → Dialog β) → Dialog β
  | .done a, f => f a
  | .ask url request next, f => .ask url request fun arrival => (next arrival).andThen f

instance : Monad Dialog where
  pure := .done
  bind := andThen

/-- Runs a dialog against a server, which answers a request to an address and changes by it. -/
def through {α σ : Type} (answer : σ → Url → HttpRequest → Arrival × σ) : σ → Dialog α → α × σ
  | s, .done a => (a, s)
  | s, .ask url request next => through answer (answer s url request).2 (next (answer s url request).1)

/-- A server whose replies are given beforehand: it stands at one host and port, and keeps what it is asked. -/
structure Script where
  host : Text
  port : Nat
  replies : List Arrival
  asked : List HttpRequest := []

/-- The next reply of a script; no reply comes from other addresses, or when there are no more. -/
def Script.answer (s : Script) (url : Url) (request : HttpRequest) : Arrival × Script :=
  if url.isAt s.host s.port then
    match s.replies with
    | reply :: more => (reply, { s with replies := more, asked := s.asked ++ [request] })
    | [] => (.nothing, { s with asked := s.asked ++ [request] })
  else (.nothing, s)

/-- Runs a dialog against a script: its outcome, and the script afterwards. -/
def replay {α : Type} (s : Script) (d : Dialog α) : α × Script := through Script.answer s d

/-! ### Small lemmas -/

section Small

variable {α β σ : Type} (answer : σ → Url → HttpRequest → Arrival × σ)

theorem through_pure (s : σ) (a : α) : through answer s (pure a) = (a, s) := rfl

/-- Two dialogs in a row: the second one meets the server that the first one leaves. -/
theorem through_bind (s : σ) (d : Dialog α) (f : α → Dialog β) :
    through answer s (d >>= f) = through answer (through answer s d).2 (f (through answer s d).1) := by
  induction d generalizing s with
  | done a => rfl
  | ask url request next ih =>
    show through answer (answer s url request).2 ((next (answer s url request).1).andThen f) = _
    exact ih (answer s url request).1 (answer s url request).2

end Small

/-- A script that stands at an address gives its next reply, and keeps what it is asked. -/
theorem Script.answer_of_isAt {s : Script} {url : Url} {reply : Arrival} {more : List Arrival}
    (hhere : url.isAt s.host s.port = true) (hreplies : s.replies = reply :: more) (request : HttpRequest) :
    s.answer url request = (reply, { s with replies := more, asked := s.asked ++ [request] }) := by
  rw [answer, if_pos hhere, hreplies]

end Dialog

end Multiples
