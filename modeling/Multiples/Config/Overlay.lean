import Multiples.Config.Basic
import Multiples.Toml.Value

/-!
# Settings in a document

A document gives some settings, and the others keep their defaults.  Sections are tables whose entries are found by
name; a section may also be an array, whose items are the settings in their order, or a moment, which gives none.
Entries and items that are no setting count for nothing.  A setting of the wrong type spoils the whole document.

`Config.ofEntries?` gives the settings of a document.
-/

namespace Multiples

namespace Config

open Toml (Value Entries)

/-! ### Sections -/

/-- Where the settings of a section are looked up. -/
inductive Section where
  | named (entries : Entries)
  | listed (items : List Value)

/-- A value as a section. -/
def Section.of? : Value → Option Section
  | .table _ entries => some (.named entries)
  | .array items => some (.listed items)
  | .tables earlier last => some (.listed ((earlier ++ [last]).map (.table .header)))
  | .moment => some (.named [])
  | _ => none

/-- The value that a section gives for a setting, known by its place and its name. -/
def Section.get? (s : Section) (place : Nat) (name : Text) : Option Value :=
  match s with
  | .named entries => entries.lookup name
  | .listed items => items[place]?

/-- A setting of a section, or its default. -/
def Section.setting {α : Type} (s : Section) (place : Nat) (name : Text) (read? : Value → Option α)
    (missing : α) : Option α :=
  match s.get? place name with
  | some v => read? v
  | none => some missing

/-! ### Types of settings -/

/-- A value as a text. -/
def text? : Value → Option Text
  | .string content => some content
  | _ => none

/-- A value as a natural number; integers of a document fit 64 bits with a sign. -/
def number? : Value → Option UInt64
  | .integer i => if 0 ≤ i then some (UInt64.ofNat i.toNat) else none
  | _ => none

/-- A value as a switch. -/
def switch? : Value → Option Bool
  | .boolean b => some b
  | _ => none

/-! ### Sections of the configuration -/

namespace Listener

/-- The settings of this section. -/
def ofSection? (s : Section) : Option Listener := do
  let missing : Listener := {}
  let bindAddress ← s.setting 0 "bind_address".toList text? missing.bindAddress
  let maxBodySize ← s.setting 1 "max_body_size".toList number? missing.maxBodySize
  pure { bindAddress, maxBodySize }

end Listener

namespace Endpoint

/-- The settings of this section. -/
def ofSection? (s : Section) : Option Endpoint := do
  let missing : Endpoint := {}
  let path ← s.setting 0 "path".toList text? missing.path
  let publicUrl ← s.setting 1 "public_url".toList text? missing.publicUrl
  pure { path, publicUrl }

end Endpoint

namespace Timeouts

/-- The settings of this section. -/
def ofSection? (s : Section) : Option Timeouts := do
  let missing : Timeouts := {}
  let requestSecs ← s.setting 0 "request_secs".toList number? missing.requestSecs
  pure { requestSecs }

end Timeouts

namespace Observability

/-- The settings of this section. -/
def ofSection? (s : Section) : Option Observability := do
  let missing : Observability := {}
  let logLevel ← s.setting 0 "log_level".toList text? missing.logLevel
  let logFormat ← s.setting 1 "log_format".toList text? missing.logFormat
  let metricsEnabled ← s.setting 2 "metrics_enabled".toList switch? missing.metricsEnabled
  let metricsAddress ← s.setting 3 "metrics_address".toList text? missing.metricsAddress
  pure { logLevel, logFormat, metricsEnabled, metricsAddress }

end Observability

/-- A section, read as its kind asks. -/
def section? {α : Type} (ofSection? : Section → Option α) (v : Value) : Option α :=
  (Section.of? v).bind ofSection?

/-- The settings of a document. -/
def ofEntries? (entries : Entries) : Option Config := do
  let top : Section := .named entries
  let listener ← top.setting 0 "listener".toList (section? Listener.ofSection?) {}
  let service ← top.setting 1 "service".toList (section? Endpoint.ofSection?) {}
  let timeouts ← top.setting 2 "timeouts".toList (section? Timeouts.ofSection?) {}
  let observability ← top.setting 3 "observability".toList (section? Observability.ofSection?) {}
  pure { listener, service, timeouts, observability }

end Config

end Multiples
