import Multiples.Config.Load
import Multiples.Lifecycle.Session
import Multiples.Log.Filter
import Multiples.Program.CommandLine

/-!
# The service as a program

It reads its settings, listens at an address, serves until it is asked to terminate, and tells what it does.

* `Daemon.launch` starts it: either it serves, or it ends with an error;
* `Daemon.terminate` is its end after it was asked to terminate;
* `Daemon.visible` are the records that are told.
-/

namespace Multiples

/-- What the program is started with: the file with its settings, an address that overrides theirs, and a filter on
what it tells. -/
structure DaemonOptions where
  settings : Option Config.Stored := none
  bind : Option Text := none
  logFilter : Option Text := none

/-- What the arguments of the program ask for. -/
inductive DaemonArguments where
  | run (settings bind : Option Text)
  | help
  | misuse
deriving DecidableEq, Repr

namespace DaemonArguments

/-- The file with the settings. -/
def configOption : CommandOption := { long := "config".toList, short := 'c' }

/-- The address to listen at. -/
def bindOption : CommandOption := { long := "bind".toList, short := 'b' }

/-- Reads the arguments, each option at most once. -/
def parse (settings bind : Option Text) (arguments : List Text) : DaemonArguments :=
  match arguments with
  | [] => .run settings bind
  | argument :: more =>
    match _taken : configOption.take? (argument :: more) with
    | some (some (value, rest)) => if settings.isSome then .misuse else parse (some value) bind rest
    | some none => .misuse
    | none =>
      match _taken : bindOption.take? (argument :: more) with
      | some (some (value, rest)) => if bind.isSome then .misuse else parse settings (some value) rest
      | some none => .misuse
      | none =>
        if asksForHelp argument then .help
        else if argument = "--".toList ∧ more = [] then .run settings bind
        else .misuse
termination_by arguments.length
decreasing_by
  · exact CommandOption.length_take? _taken
  · exact CommandOption.length_take? _taken

end DaemonArguments

/-- Why the program cannot listen at an address. -/
inductive BindError where
  | noPort
  | badPort
  | noHost
  | unknownHost
  | notAvailable
  | inUse
deriving DecidableEq, Repr

/-- A program that has been started. -/
inductive Daemon where
  | refused (e : ConfigError)
  | unbound (settings : Config) (records : List Log.Record) (e : BindError)
  | unroutable (settings : Config) (records : List Log.Record)
  | serving (settings : Config) (records : List Log.Record) (session : Session)

namespace Daemon

/-- How the program is used. -/
def usage : Text := "Usage: multiples serve [--config FILE] [--bind ADDRESS]".toList

/-! ### Records -/

/-- The version of the program. -/
def version : Text := "0.1.0".toList

/-- A record about the program as a whole. -/
def about (message : Text) (fields : List (Text × Log.Datum)) : Log.Record :=
  { level := .info, target := "factor_service".toList, message, fields }

/-- A record about the server. -/
def aboutServer (message : String) (fields : List (Text × Log.Datum)) : Log.Record :=
  { level := .info, target := "factor_service::http::server".toList, message := message.toList, fields }

/-- The records before anything is opened. -/
def opening (c : Config) : List Log.Record :=
  [about ("factor-service v".toList ++ version ++ " starting".toList) [],
   about "Configuration loaded".toList
    [("bind_address".toList, .text c.listener.bindAddress), ("path".toList, .text c.service.path),
     ("public_url".toList, .text c.service.publicUrl),
     ("request_timeout_secs".toList, .number c.timeouts.requestSecs.toNat)]]

/-- The record about the metrics, if they are on. -/
def metricsRecords (available : SocketAddress → Bool) (c : Config) : List Log.Record :=
  let target := "factor_service::observability::metrics".toList
  if c.observability.metricsEnabled then
    match SocketAddress.parse? c.observability.metricsAddress with
    | some a =>
      if available a then [{ level := .info, target, message := "Metrics exporter listening".toList }]
      else [{ level := .error, target, message := "Failed to install metrics exporter".toList }]
    | none =>
      [{ level := .error, target := "factor_service".toList, message := "Failed to parse metrics address".toList
         fields := [("metrics_address".toList, .text c.observability.metricsAddress)] }]
  else []

/-- The records once the program listens. -/
def listening (c : Config) : List Log.Record :=
  [about ("Descriptor available at ".toList ++ c.service.publicUrl ++ "?wsdl".toList) []]

/-- The records once the program serves. -/
def serverStarting (c : Config) : List Log.Record :=
  [aboutServer "HTTP server starting" [("path".toList, .text c.service.path)]]

/-- The records of an orderly end. -/
def closing : List Log.Record :=
  [{ level := .info, target := "factor_service::lifecycle::signals".toList
     message := "Shutdown signal received".toList },
   aboutServer "HTTP server stopped" [],
   about "Shutdown complete".toList []]

/-! ### Starting -/

/-- The settings of the program. -/
def settings (o : DaemonOptions) : Except ConfigError Config := do
  let c ← match o.settings with
    | some stored => Config.load stored
    | none => pure {}
  match o.bind with
  | some bind => pure { c with listener := { c.listener with bindAddress := bind } }
  | none => pure c

/-- The names of this machine, with their hosts. -/
def ownNames : List (Text × Host) := [("localhost".toList, .v4 [127, 0, 0, 1])]

/-- Whether a text can be the name of a host: none of its labels is empty, the one after a dot at its end aside, and
none has more than 63 bytes. -/
def isName (host : Text) : Bool :=
  let labels := host.cells '.'
  let labels := if labels.getLast? = some [] then labels.dropLast else labels
  labels != [] && labels.all fun label => label != [] && decide (Text.byteSize label ≤ 63)

/-- The host that a text stands for: a numeric host in any way of writing, or a name, letter case aside. -/
def resolve (host : Text) : Except BindError Host :=
  match Octets.ofNumbers? (host.cells '.') with
  | some octets => .ok (.v4 octets)
  | none =>
    match Reader.whole? Groups.reader host with
    | some groups => .ok (.v6 groups 0)
    | none =>
      match ownNames.lookup (host.map Char.toLower) with
      | some found => .ok found
      | none => .error (if isName host then .unknownHost else .noHost)

/-- The port in a text, which may have a plus sign. -/
def port? : Text → Option Nat
  | '+' :: digits => Decimal.natBelow? 0x10000 digits
  | digits => Decimal.natBelow? 0x10000 digits

/-- The address in a text that the program was told to listen at; one that is none may still name a host. -/
def address? (bind : Text) : Except BindError SocketAddress :=
  match SocketAddress.parse? bind with
  | some a => .ok a
  | none =>
    match Text.cut? [':'] bind.reverse with
    | none => .error .noPort
    | some (port, host) =>
      match port? port.reverse with
      | none => .error .badPort
      | some port => (resolve host.reverse).map fun host => { host, port }

/-- The address that the metrics are open at, if they are. -/
def metricsAddress? (available : SocketAddress → Bool) (c : Config) : Option SocketAddress :=
  if c.observability.metricsEnabled then (SocketAddress.parse? c.observability.metricsAddress).filter available
  else none

/-- The address to listen at, if it is available and not taken. -/
def bound (available : SocketAddress → Bool) (taken : Option SocketAddress) (bind : Text) :
    Except BindError SocketAddress := do
  let a ← address? bind
  if ¬ available a then throw .notAvailable
  else if taken.any a.collidesWith then throw .inUse
  else pure a

/-- Starts the program where some addresses are available; it is then reached at a host and a port. -/
def launch (available : SocketAddress → Bool) (host : Text) (port : Nat) (o : DaemonOptions) : Daemon :=
  match settings o with
  | .error e => .refused e
  | .ok c =>
    let records := opening c ++ metricsRecords available c
    match bound available (metricsAddress? available c) c.listener.bindAddress with
    | .error e => .unbound c records e
    | .ok _ =>
      match Server.ofConfig? c with
      | none => .unroutable c (records ++ listening c)
      | some server => .serving c (records ++ listening c ++ serverStarting c) (Session.start server host port {})

/-! ### Ending -/

/-- A problem with all its data. -/
def problemDetail (p : Config.Problem) : Text :=
  CommandLine.dataOf "ValidationError" [("field", p.setting.quoted), ("message", p.complaint.quoted)]

/-- A system error with its number, its kind and its message. -/
def systemDetail (code : String) (kind : String) (message : String) : Text :=
  CommandLine.dataOf "Os" [("code", code.toList), ("kind", kind.toList), ("message", Text.quoted message.toList)]

/-- An error of input or output that is not the system's. -/
def inputDetail (kind : String) (message : String) : Text :=
  CommandLine.dataOf "Error" [("kind", kind.toList), ("message", Text.quoted message.toList)]

/-- A failure to find the host of a name. -/
def lookupDetail (reason : String) : Text :=
  CommandLine.dataOf "Custom"
    [("kind", "Uncategorized".toList),
     ("error", Text.quoted ("failed to lookup address information: ".toList ++ reason.toList))]

/-- A configuration error with all its data. -/
def configDetail : ConfigError → Text
  | .file .notFound => "Io(".toList ++ systemDetail "2" "NotFound" "No such file or directory" ++ [')']
  | .file .isADirectory => "Io(".toList ++ systemDetail "21" "IsADirectory" "Is a directory" ++ [')']
  | .file .invalidData => "Io(".toList ++ inputDetail "InvalidData" "stream did not contain valid UTF-8" ++ [')']
  | .malformed => "Parse(".toList ++ Text.quoted "malformed document".toList ++ [')']
  | .invalid problems => "Validation([".toList ++ Text.glue [',', ' '] (problems.map problemDetail) ++ [']', ')']

/-- A bind error with all its data. -/
def bindDetail : BindError → Text
  | .noPort => inputDetail "InvalidInput" "invalid socket address"
  | .badPort => inputDetail "InvalidInput" "invalid port value"
  | .noHost => lookupDetail "Name or service not known"
  | .unknownHost => lookupDetail "Temporary failure in name resolution"
  | .notAvailable => systemDetail "99" "AddrNotAvailable" "Cannot assign requested address"
  | .inUse => systemDetail "98" "AddrInUse" "Address already in use"

/-- An end with an error. -/
def failure (detail : Text) : ProgramOutput :=
  { exit := 1, stderr := CommandLine.line ("Error: ".toList ++ detail) }

/-- The end of the program, after it was asked to terminate if it serves. -/
def terminate : Daemon → ProgramOutput
  | .refused e => failure (configDetail e)
  | .unbound _ _ e => failure (bindDetail e)
  | .unroutable _ _ => { exit := 101 }
  | .serving _ _ _ => {}

/-! ### Telling -/

/-- All records of a program that has ended. -/
def records : Daemon → List Log.Record
  | .refused _ => []
  | .unbound _ records _ => records
  | .unroutable _ records => records
  | .serving _ records session => records ++ session.records ++ closing

/-- The settings of a program that got as far as having any. -/
def settings? : Daemon → Option Config
  | .refused _ => none
  | .unbound c _ _ => some c
  | .unroutable c _ => some c
  | .serving c _ _ => some c

/-- The filter on what is told: the given one if it can be read, or else the one for the configured level. -/
def filter (o : DaemonOptions) (c : Config) : Log.Filter :=
  match o.logFilter.bind Log.Filter.parse? with
  | some filter => filter
  | none => (Log.Filter.parse? (Log.defaultDirectives c.observability.logLevel)).getD []

/-- The records that are told. -/
def visible (o : DaemonOptions) (d : Daemon) : List Log.Record :=
  match d.settings? with
  | some c => d.records.filter (filter o c).admits
  | none => []

/-- Whether records are told to programs rather than to people. -/
def tellsObjects (c : Config) : Bool := c.observability.logFormat == "json".toList

end Daemon

end Multiples
