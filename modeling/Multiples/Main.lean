import Multiples.Http.Wire
import Multiples.Log.Line
import Multiples.Program.Daemon
import Std.Async

/-!
# The program

`serve` as the first argument starts the service; all other arguments are those of the client.  What is here only
moves bytes, waits, and prints; what is said and done is decided elsewhere.
-/

namespace Multiples

namespace Program

open Std.Async

/-! ### Calling a server -/

/-- All bytes that arrive until the connection ends or breaks. -/
partial def receiveAll (c : TCP.Socket.Client) (bytes : List UInt8) : Async (List UInt8) := do
  let next ← try c.recv? 1048576 catch _ => pure none
  match next with
  | some more => receiveAll c (bytes ++ more.toList)
  | none => pure bytes

/-- An address of the system at a port. -/
def atPort (a : Std.Net.IPAddr) (port : Nat) : Std.Net.SocketAddress :=
  match a with
  | .v4 addr => .v4 { addr, port := UInt16.ofNat port }
  | .v6 addr => .v6 { addr, port := UInt16.ofNat port }

/-- Sends a request to the first address of a host and waits for the reply. -/
def exchangeAt (url : Url) (r : HttpRequest) : Async Arrival := do
  let found ← DNS.getAddrInfo (String.ofList url.lookupName) (String.ofList (Decimal.ofNat url.port))
  match found[0]? with
  | some a =>
    let c ← TCP.Socket.Client.mk
    c.connect (atPort a url.port)
    c.send (Wire.request url r).toByteArray
    let bytes ← receiveAll c []
    pure (Wire.arrival bytes)
  | none => pure .nothing

/-- Sends a request and waits for the reply; whatever fails on the way, nothing arrives. -/
def exchange (url : Url) (r : HttpRequest) : IO Arrival := do
  if url.scheme = .https then return .nothing
  try (exchangeAt url r).block catch _ => pure .nothing

/-- Leads a dialog with the servers of the network. -/
def lead {α : Type} : Dialog α → IO α
  | .done a => pure a
  | .ask url r next => do lead (next (← exchange url r))

/-- The client. -/
def runClient (arguments : List Text) : IO UInt32 := do
  let out ← lead (CommandLine.parse arguments).dialog
  IO.print (String.ofList out.stdout)
  IO.eprint (String.ofList out.stderr)
  return UInt32.ofNat out.exit

/-! ### Answering callers -/

/-- A service that runs: its server, the calls it has counted, and how it tells records. -/
structure Running where
  server : Server
  calls : IO.Ref (List Call)
  busy : IO.Ref Nat
  tell : Log.Record → IO Unit

/-- The longest beginning of a request. -/
def headLimit : Nat := 65536

/-- Waits for the beginning of a request. -/
partial def awaitHead (c : TCP.Socket.Client) (bytes : List UInt8) : Async (Option (Wire.Head × List UInt8)) := do
  match Wire.head? bytes with
  | some found => pure (some found)
  | none =>
    if headLimit < bytes.length then pure none
    else
      match ← c.recv? 1048576 with
      | some more => awaitHead c (bytes ++ more.toList)
      | none => pure none

/-- Waits for more of a body, at most so many milliseconds; the inner value is missing at the end of the connection. -/
def awaitMore (c : TCP.Socket.Client) (milliseconds : Nat) : Async (Option (Option ByteArray)) := do
  let timer ← Selector.sleep (Std.Time.Millisecond.Offset.ofNat (min milliseconds 0x10000000000))
  Selectable.one #[
    .case (c.recvSelector 1048576) (fun more => pure (some more)),
    .case timer (fun _ => pure none)]

/-- Waits for the body of a request, until it is complete or what has arrived decides how it ends. -/
partial def awaitBody (s : Server) (c : TCP.Socket.Client) (headers : List Header) (started : Nat)
    (rest : List UInt8) : Async (List BodyPart) := do
  let (content, complete) := Wire.body headers rest
  let spent := (← IO.monoMsNow) - started
  let parts : List BodyPart := [.pause spent, .chunk content]
  if complete ∨ Body.read s.maxBodySize s.requestSecs parts ≠ .whole content then pure parts
  else
    match ← awaitMore c (1000 * s.requestSecs - spent) with
    | some (some more) => awaitBody s c headers started (rest ++ more.toList)
    | some none => pure (parts ++ [.failure "connection closed before message completed".toList])
    | none => pure (parts ++ [.stall])

/-- Answers a request whose beginning has arrived. -/
def respond (running : Running) (c : TCP.Socket.Client) (h : Wire.Head) (rest : List UInt8) :
    Async HttpResponse := do
  match Wire.request? h with
  | none => pure { status := 400 }
  | some r =>
    let body ← if r.method = Method.post then awaitBody running.server c h.headers (← IO.monoMsNow) rest else pure []
    let fresh := RequestId.ofRandom (← IO.getRandomBytes 16).toList
    match running.server.handle? fresh { r with body } with
    | some handled =>
      running.calls.modify fun calls => calls ++ handled.call.toList
      handled.records.forM fun r => (running.tell r : IO Unit)
      pure handled.response
    | none => pure { status := 400 }

/-- Serves one connection, which carries one exchange. -/
def serveConnection (respond : TCP.Socket.Client → Wire.Head → List UInt8 → Async HttpResponse) (c : TCP.Socket.Client) :
    Async Unit := do
  try
    match ← awaitHead c [] with
    | some (h, rest) =>
      c.send (Wire.response (← respond c h rest)).toByteArray
      c.shutdown
    | none => pure ()
  catch _ => pure ()

/-- The counts of a service as a response. -/
def metricsResponse (running : Running) : Async HttpResponse := do
  let lines := Metrics.lines (← running.calls.get)
  pure { status := 200, headers := [.ofText "content-type" "text/plain".toList], body := lines.flatMap CommandLine.line }

/-- Stops a token as soon as the system sends the signal. -/
def stopOn (stop : Std.CancellationToken) (signal : Signal) : IO Unit := do
  let waiter ← Signal.Waiter.mk signal false
  discard <| (← waiter.wait).mapIO fun _ => stop.cancel .shutdown

/-- Accepts connections until it is stopped. -/
partial def accept (listener : TCP.Socket.Server) (stop : Std.CancellationToken)
    (serve : TCP.Socket.Client → Async Unit) : Async Unit := do
  let next ← Selectable.one #[
    .case listener.acceptSelector (fun c => pure (some c)),
    .case stop.selector (fun _ => pure none)]
  match next with
  | some c =>
    background (serve c)
    accept listener stop serve
  | none => pure ()

/-- Waits until no connection is being served. -/
partial def drain (running : Running) : Async Unit := do
  if (← running.busy.get) = 0 then pure ()
  else
    sleep (Std.Time.Millisecond.Offset.ofNat 10)
    drain running

/-- Counts a connection while it is being served. -/
def counted (running : Running) (serve : TCP.Socket.Client → Async Unit) (c : TCP.Socket.Client) : Async Unit := do
  running.busy.modify (· + 1)
  serve c
  running.busy.modify (· - 1)

/-! ### The service -/

/-- An address as the system knows it. -/
def systemAddress (a : SocketAddress) : Std.Net.SocketAddress :=
  match a.host with
  | .v4 octets =>
    let octet := fun i => UInt8.ofNat (octets.getD i 0)
    atPort (.v4 (Std.Net.IPv4Addr.ofParts (octet 0) (octet 1) (octet 2) (octet 3))) a.port
  | .v6 groups _ =>
    let group := fun i => UInt16.ofNat (groups.getD i 0)
    atPort (.v6 (Std.Net.IPv6Addr.ofParts (group 0) (group 1) (group 2) (group 3) (group 4) (group 5) (group 6)
      (group 7))) a.port

/-- Listens at an address, if the system allows it. -/
def listenAt (a : SocketAddress) : IO (Option TCP.Socket.Server) := do
  try
    let s ← TCP.Socket.Server.mk
    s.bind (systemAddress a)
    s.listen 1024
    pure (some s)
  catch _ => pure none

/-- What stands under the name of a file. -/
def stored (name : Text) : IO Config.Stored := do
  try
    let bytes ← IO.FS.readBinFile (String.ofList name)
    pure (.file bytes.toList)
  catch e =>
    match e with
    | .noFileOrDirectory _ _ _ => pure .nothing
    | _ => pure .directory

/-- Tells a record, if the filter lets it through. -/
def tell (o : DaemonOptions) (c : Config) (r : Log.Record) : IO Unit := do
  if (Daemon.filter o c).admits r then
    IO.println (String.ofList (if Daemon.tellsObjects c then r.objectLine else r.plainLine))
    (← IO.getStdout).flush

/-- Serves until the system asks for termination, and then to the end of what is being served. -/
def serveUntilAsked (running : Running) (listener : TCP.Socket.Server) (metrics : Option TCP.Socket.Server) :
    Async Unit := do
  let stop ← Std.CancellationToken.new
  [Signal.sigint, .sigterm].forM fun signal => (stopOn stop signal : IO Unit)
  match metrics with
  | some m => background (accept m stop (serveConnection fun _ _ _ => metricsResponse running))
  | none => pure ()
  accept listener stop (counted running (serveConnection (respond running)))
  drain running

/-- The addresses that a configuration asks for, and what listens there. -/
def openAddresses (o : DaemonOptions) :
    IO (List (SocketAddress × TCP.Socket.Server) × List (SocketAddress × TCP.Socket.Server)) := do
  match Daemon.settings o with
  | .error _ => pure ([], [])
  | .ok c =>
    let metrics := if c.observability.metricsEnabled then (SocketAddress.parse? c.observability.metricsAddress).toList
      else []
    let own := (Daemon.address? c.listener.bindAddress).toOption.toList
    let opened := fun (a : SocketAddress) => do pure ((← listenAt a).toList.map fun s => (a, s))
    pure ((← metrics.mapM opened).flatten, (← own.mapM opened).flatten)

/-- The service. -/
def runService (arguments : List Text) : IO UInt32 := do
  match DaemonArguments.parse none none arguments with
  | .help =>
    IO.println (String.ofList Daemon.usage)
    return 0
  | .misuse =>
    IO.eprintln (String.ofList Daemon.usage)
    return 2
  | .run settings bind =>
    let options : DaemonOptions :=
      { settings := ← settings.mapM stored, bind, logFilter := (← IO.getEnv "MULTIPLES_LOG").map String.toList }
    let (metrics, own) ← openAddresses options
    let available := fun a => (metrics ++ own).any fun found => found.1 == a
    let daemon := Daemon.launch available "127.0.0.1".toList 0 options
    match daemon, own with
    | .serving c records session, (_, listener) :: _ =>
      records.forM (tell options c)
      let running : Running :=
        { server := session.server, calls := ← IO.mkRef [], busy := ← IO.mkRef 0, tell := tell options c }
      (serveUntilAsked running listener (metrics.head?.map Prod.snd)).block
      Daemon.closing.forM (tell options c)
    | other, _ =>
      match other.settings? with
      | some c => other.records.forM (tell options c)
      | none => pure ()
    IO.eprint (String.ofList daemon.terminate.stderr)
    return UInt32.ofNat daemon.terminate.exit

end Program

end Multiples

/-- Runs the service or the client. -/
def main (arguments : List String) : IO UInt32 :=
  match arguments with
  | "serve" :: rest => Multiples.Program.runService (rest.map String.toList)
  | other => Multiples.Program.runClient (other.map String.toList)
