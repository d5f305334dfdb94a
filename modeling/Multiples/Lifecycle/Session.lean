import Multiples.Client
import Multiples.Http.Server
import Multiples.Lifecycle.StopSignal

/-!
# Sessions

A server that is reached at a host and a port, from its start until the stop signal reaches it.

* `Session.answer` answers a request while the server runs;
* `Session.stop` sends the stop signal: the first one reaches the server and ends it, a later one reaches nobody;
* `Session.run` carries out what callers do, one after another.
-/

namespace Multiples

/-- A running or stopped server, with the stop signal it listens to and what has been told about its requests. -/
structure Session where
  server : Server
  host : Text
  port : Nat
  signal : StopSignal
  listener : Nat
  running : Bool := true
  records : List Log.Record := []

namespace Session

/-- Starts a server that listens to a stop signal. -/
def start (server : Server) (host : Text) (port : Nat) (signal : StopSignal) : Session :=
  { server, host, port, signal := signal.subscribe, listener := signal.listeners.length }

/-- What a caller sees of a handled request; one that is not valid is refused without a body. -/
def arrivalOf : Option Handled → Arrival
  | some h => .reply h.response.status (Utf8.encode h.response.body) 0
  | none => .reply 400 [] 0

/-- Answers a request, given a fresh identifier. -/
def answer (fresh : Text) (s : Session) (url : Url) (request : HttpRequest) : Arrival × Session :=
  if s.running ∧ url.isAt s.host s.port then
    let handled := s.server.handle? fresh request
    (arrivalOf handled, { s with records := s.records ++ (handled.map Handled.records).getD [] })
  else (.nothing, s)

/-- Lets the server look for the stop signal. -/
def look (s : Session) : Session :=
  let polled := s.signal.poll s.listener
  { s with signal := polled.1, running := s.running && polled.2 != .stopped }

/-- Sends the stop signal: how many listeners it reaches, whether the server ends by it, and the session afterwards. -/
def stop (s : Session) : Nat × Bool × Session :=
  let sent := { s with signal := s.signal.trigger }.look
  (s.signal.listening, s.running && !sent.running, sent)

/-! ### Steps -/

/-- What can be done with a server from outside: a call to a path, or a stop. -/
inductive Step where
  | find (path : Text) (r : Request)
  | send (path doc : Text)
  | describe (path : Text)
  | stop
deriving DecidableEq, Repr

/-- What comes of a step. -/
inductive Result where
  | numbers (r : Except ClientError (List Int64))
  | text (r : Except ClientError Text)
  | stopped (listening : Nat) (clean : Bool)

/-- The address of a path on the server. -/
def address (s : Session) (path : Text) : Text :=
  "http://".toList ++ s.host ++ ':' :: Decimal.ofNat s.port ++ path

/-- Carries out one step, given a fresh identifier. -/
def step (fresh : Text) (s : Session) : Step → Result × Session
  | .find path r => (Dialog.through (answer fresh) s (Client.find (s.address path) r)).map .numbers id
  | .send path doc => (Dialog.through (answer fresh) s (Client.send (s.address path) doc)).map .text id
  | .describe path => (Dialog.through (answer fresh) s (Client.describe (s.address path))).map .text id
  | .stop => (.stopped s.stop.1 s.stop.2.1, s.stop.2.2)

/-- Carries out steps in order, with the result of each. -/
def run (fresh : Text) (s : Session) : List Step → List Result × Session
  | [] => ([], s)
  | step :: more =>
    let first := s.step fresh step
    let rest := run fresh first.2 more
    (first.1 :: rest.1, rest.2)

end Session

end Multiples
