import Multiples.Text.Basic

/-!
# Configuration

What can be set about a running service, with the value that each setting has when it is not given.
-/

namespace Multiples

namespace Config

/-- Where connections come in, and how much one may send. -/
structure Listener where
  bindAddress : Text := "0.0.0.0:8080".toList
  maxBodySize : UInt64 := 1048576
deriving DecidableEq, Repr

/-- Where the service is found on the server, and from outside. -/
structure Endpoint where
  path : Text := "/factorservice".toList
  publicUrl : Text := "http://localhost:8080/factorservice".toList
deriving DecidableEq, Repr

/-- How long one request may take. -/
structure Timeouts where
  requestSecs : UInt64 := 30
deriving DecidableEq, Repr

/-- What is told about the running service, and where. -/
structure Observability where
  logLevel : Text := "info".toList
  logFormat : Text := "pretty".toList
  metricsEnabled : Bool := false
  metricsAddress : Text := "0.0.0.0:9090".toList
deriving DecidableEq, Repr

end Config

/-- All settings. -/
structure Config where
  listener : Config.Listener := {}
  service : Config.Endpoint := {}
  timeouts : Config.Timeouts := {}
  observability : Config.Observability := {}
deriving DecidableEq, Repr

end Multiples
