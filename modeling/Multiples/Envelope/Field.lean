import Multiples.Text.Blank
import Multiples.Text.Decimal
import Multiples.Markup.Element
import Multiples.Envelope.DecodeError

/-!
# Fields

A field of a document is what stands between the first tag of its name and the first closing tag of that name
after it.  Attributes, nesting and name spaces are not interpreted.  A field without content counts as absent;
blanks are content.

* `Envelope.field?` finds a field, as it is written;
* `Envelope.hasTag` says whether the opening tag occurs at all;
* `Envelope.textField?`, `Envelope.intField` and `Envelope.intListField` read the content.
-/

namespace Multiples

namespace Envelope

/-- The content of a field, as it is written. -/
def field? (doc tag : Text) : Option Text :=
  match Text.cut? (Markup.openTag tag) doc with
  | none => none
  | some (_, rest) =>
    match Text.cut? (Markup.closeTag tag) rest with
    | none => none
    | some (raw, _) => if raw = [] then none else some raw

/-- Whether a tag without attributes occurs in a document. -/
def hasTag (doc tag : Text) : Bool := Text.occurs (Markup.openTag tag) doc

/-- The text that a field stands for. -/
def textField? (doc tag : Text) : Option Text := (field? doc tag).map Markup.unescape

/-- The integer that a token of a field stands for, blanks around it aside. -/
def readInt (tag token : Text) : Except DecodeError Int64 :=
  match Decimal.int64? token.trim with
  | some n => .ok n
  | none => .error (.invalidNumber tag token.trim)

/-- The integers that tokens of a field stand for, or the first token that stands for none. -/
def readInts (tag : Text) : List Text → Except DecodeError (List Int64)
  | [] => .ok []
  | token :: more => do
    let n ← readInt tag token
    let ns ← readInts tag more
    pure (n :: ns)

/-- The integer in a field, or a default if the field is absent. -/
def intField (doc tag : Text) (missing : Int64) : Except DecodeError Int64 :=
  match field? doc tag with
  | some raw => readInt tag (Markup.unescape raw)
  | none => .ok missing

/-- The integers in a field, between commas, or a default if the field is absent. -/
def intListField (doc tag : Text) (missing : List Int64) : Except DecodeError (List Int64) :=
  match field? doc tag with
  | some raw => readInts tag ((Markup.unescape raw).cells ',')
  | none => .ok missing

/-! ### Small lemmas -/

variable {doc tag : Text}

theorem field?_of_cut {before rest raw after : Text} (hopen : Text.cut? (Markup.openTag tag) doc = some (before, rest))
    (hclose : Text.cut? (Markup.closeTag tag) rest = some (raw, after)) :
    field? doc tag = if raw = [] then none else some raw := by
  rw [field?, hopen]
  simp only [hclose]

theorem intListField_of_field? {raw : Text} (h : field? doc tag = some raw) (missing : List Int64) :
    intListField doc tag missing = readInts tag ((Markup.unescape raw).cells ',') := by
  rw [intListField, h]

theorem intListField_of_absent (h : field? doc tag = none) (missing : List Int64) :
    intListField doc tag missing = .ok missing := by
  rw [intListField, h]

end Envelope

end Multiples
