import Multiples.Config.Basic
import Multiples.Net.SocketAddress
import Multiples.Text.Quoted

/-!
# Rules for settings

Every rule is about one setting and complains about its value; `Config.problems` gives the complaints of all rules
in their order.  Only the rule for the metrics address looks at a second setting: nothing is asked of the address
while metrics are off.
-/

namespace Multiples

namespace Config

/-- A setting and what is wrong with its value. -/
structure Problem where
  setting : Text
  complaint : Text
deriving DecidableEq, Repr

/-- The wording of a problem. -/
def Problem.message (p : Problem) : Text := p.setting ++ ": ".toList ++ p.complaint

/-- A setting and the complaint about its value, if there is one. -/
structure Rule where
  setting : Text
  complaint? : Config → Option Text

/-- The words for how much is logged. -/
def logLevels : List Text := ["trace".toList, "debug".toList, "info".toList, "warn".toList, "error".toList]

/-- The words for how it is logged. -/
def logFormats : List Text := ["pretty".toList, "json".toList]

/-! ### Complaints -/

/-- A value between single quotes and what is said about it. -/
def saying (value remark : Text) : Text := '\'' :: (value ++ '\'' :: remark)

/-- Asks for a socket address. -/
def addressComplaint? (value : Text) : Option Text :=
  if (SocketAddress.parse? value).isSome then none else some (saying value " is not a socket address".toList)

/-- Asks for a number that is not zero. -/
def positiveComplaint? (value : UInt64) : Option Text :=
  if value = 0 then some "must be greater than 0".toList else none

/-- Asks for a path of a slash and something after it, and nothing that a path pattern gives a meaning to. -/
def pathComplaint? (value : Text) : Option Text :=
  if value.head? ≠ some '/' ∨ value.byteSize < 2 then
    some (saying value " must start with '/' and name a resource".toList)
  else if '\x7b' ∈ value ∨ '\x7d' ∈ value ∨ '?' ∈ value then
    some (saying value " must be a literal path".toList)
  else none

/-- Asks for a text that is not empty. -/
def presentComplaint? (value : Text) : Option Text :=
  if value = [] then some "must not be empty".toList else none

/-- Words in order, each quoted. -/
def quotedList (words : List Text) : Text := '[' :: (Text.glue [',', ' '] (words.map Text.quoted) ++ [']'])

/-- Asks for one of some words. -/
def wordComplaint? (words : List Text) (value : Text) : Option Text :=
  if value ∈ words then none else some (saying value (" is not one of ".toList ++ quotedList words))

/-! ### All rules -/

/-- The rules, in the order in which their complaints are told. -/
def rules : List Rule :=
  [⟨"listener.bind_address".toList, fun c => addressComplaint? c.listener.bindAddress⟩,
   ⟨"listener.max_body_size".toList, fun c => positiveComplaint? c.listener.maxBodySize⟩,
   ⟨"service.path".toList, fun c => pathComplaint? c.service.path⟩,
   ⟨"service.public_url".toList, fun c => presentComplaint? c.service.publicUrl⟩,
   ⟨"timeouts.request_secs".toList, fun c => positiveComplaint? c.timeouts.requestSecs⟩,
   ⟨"observability.log_level".toList, fun c => wordComplaint? logLevels c.observability.logLevel⟩,
   ⟨"observability.log_format".toList, fun c => wordComplaint? logFormats c.observability.logFormat⟩,
   ⟨"observability.metrics_address".toList, fun c =>
      if c.observability.metricsEnabled then addressComplaint? c.observability.metricsAddress else none⟩]

/-- What is wrong with some settings. -/
def problems (c : Config) : List Problem :=
  rules.filterMap fun r => (r.complaint? c).map fun complaint => { setting := r.setting, complaint }

/-- The settings, if nothing is wrong with them. -/
def validate (c : Config) : Except (List Problem) Config :=
  if c.problems = [] then .ok c else .error c.problems

end Config

end Multiples
