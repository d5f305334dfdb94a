import Multiples.Text.Basic

/-!
# Log records

What a running program tells: how grave it is, which part of the program tells it and within which stretch of work, a
message, and named data.
-/

namespace Multiples

namespace Log

/-- How grave a record is, from the least to the most. -/
inductive Level where
  | trace
  | debug
  | info
  | warn
  | error
deriving DecidableEq, Repr

namespace Level

/-- The place of a level in the order of gravity. -/
def rank : Level → Nat
  | .trace => 0
  | .debug => 1
  | .info => 2
  | .warn => 3
  | .error => 4

/-- How a level is written in a log. -/
def label : Level → Text
  | .trace => "TRACE".toList
  | .debug => "DEBUG".toList
  | .info => "INFO".toList
  | .warn => "WARN".toList
  | .error => "ERROR".toList

end Level

/-- A datum of a record. -/
inductive Datum where
  | text (t : Text)
  | number (n : Nat)
deriving DecidableEq, Repr

/-- A stretch of work within which records are told: its name, the part of the program that it belongs to, and the names
of its data. -/
structure Span where
  name : Text
  target : Text
  names : List Text
deriving DecidableEq, Repr

/-- One record. -/
structure Record where
  level : Level
  target : Text
  message : Text
  fields : List (Text × Datum) := []
  span : Option Span := none
deriving DecidableEq, Repr

/-- The names of all that a record tells. -/
def Record.names (r : Record) : List Text := "message".toList :: r.fields.map Prod.fst

end Log

end Multiples
