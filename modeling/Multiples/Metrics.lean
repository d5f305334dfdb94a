import Multiples.Text.Decimal

/-!
# Metrics

Every handled call is counted by its method and its outcome.

* `Metrics.total` is one of the counts;
* `Metrics.lines` shows them all, one a line, sorted: how many calls of a method were timed, and how many had an
  outcome.
-/

namespace Multiples

/-- What became of a call. -/
inductive CallOutcome where
  | descriptor
  | result
  | fault
  | rejected
deriving DecidableEq, Repr

/-- How an outcome is written in the metrics. -/
def CallOutcome.label : CallOutcome → Text
  | .descriptor => "descriptor".toList
  | .result => "result".toList
  | .fault => "fault".toList
  | .rejected => "rejected".toList

/-- A handled call. -/
structure Call where
  method : Text
  outcome : CallOutcome
deriving DecidableEq, Repr

namespace Metrics

/-- How many calls of a method had an outcome. -/
def total (calls : List Call) (method : Text) (outcome : CallOutcome) : Nat := calls.count { method, outcome }

/-- How many calls of a method there were. -/
def timed (calls : List Call) (method : Text) : Nat := (calls.map Call.method).count method

/-- A label and its value. -/
def labelled (name value : Text) : Text := name ++ '=' :: '"' :: (value ++ ['"'])

/-- A series with its labels between braces, and its value. -/
def line (series : Text) (labels : List Text) (n : Nat) : Text :=
  series ++ '\x7b' :: (Text.glue [','] labels ++ '\x7d' :: ' ' :: Decimal.ofNat n)

/-- The line of one count. -/
def totalLine (calls : List Call) (c : Call) : Text :=
  line "factor_requests_total".toList
    [labelled "method".toList c.method, labelled "outcome".toList c.outcome.label]
    (total calls c.method c.outcome)

/-- The line of the number of timed calls of one method. -/
def timedLine (calls : List Call) (method : Text) : Text :=
  line "factor_request_duration_seconds_count".toList [labelled "method".toList method] (timed calls method)

/-- Texts in the order of their characters. -/
def sorted (lines : List Text) : List Text := lines.mergeSort Text.isAtMost

/-- All counts, one a line. -/
def lines (calls : List Call) : List Text :=
  sorted (calls.eraseDups.map (totalLine calls) ++ (calls.map Call.method).eraseDups.map (timedLine calls))

end Metrics

end Multiples
