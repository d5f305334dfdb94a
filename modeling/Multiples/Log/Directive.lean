import Multiples.Log.Record
import Multiples.Text.Alphanumeric
import Multiples.Text.Blank
import Multiples.Text.Decimal

/-!
# Directives of a log filter

A directive says what is told, and of which records: of those for a target, of those told within a span, or of those with
a field.

* a level, or a target alone;
* a target, an equals sign and a level;
* perhaps a target, then the name of a span between square brackets, in which a field may follow between braces, then
  perhaps an equals sign and a level.

`Log.Directive.parse?` reads a directive.  Blanks around it do not count for its shape, but its parts are cut from the
text with its blanks, at the same distances from the beginning; so a blank before a directive moves its parts.
-/

namespace Multiples

namespace Log

/-- The least grave level that is told, or none at all. -/
abbrev Threshold := Option Level

/-- A field that a directive asks for, with a value or without. -/
structure FieldPattern where
  name : Text
  value : Option Text := none
deriving DecidableEq, Repr

/-- One directive of a filter; one without a target, a span or a field is for every target, span or field. -/
structure Directive where
  target : Option Text := none
  span : Option Text := none
  field : Option FieldPattern := none
  threshold : Threshold := some .trace
deriving DecidableEq, Repr

namespace Directive

/-! ### Thresholds -/

/-- The thresholds with their words, from the one that tells nothing to the one that tells all. -/
def thresholds : List (Text × Threshold) :=
  [("off".toList, none), ("error".toList, some .error), ("warn".toList, some .warn), ("info".toList, some .info),
   ("debug".toList, some .debug), ("trace".toList, some .trace)]

/-- The threshold that a number from zero to five stands for. -/
def numbered? (digits : Text) : Option Threshold :=
  (Decimal.nat? digits).bind fun n => thresholds[n]?.map Prod.snd

/-- The threshold that a word, letter case aside, or a number stands for. -/
def threshold? (word : Text) : Option Threshold :=
  match thresholds.lookup (word.map Char.toLower) with
  | some threshold => some threshold
  | none =>
    match word with
    | '+' :: digits => numbered? digits
    | digits => numbered? digits

/-- The threshold after an equals sign; if it is left out, all is told. -/
def thresholdAfter? (word : Text) : Option Threshold := if word = [] then some (some .trace) else threshold? word

/-! ### Parts -/

/-- Whether a directive can begin with a character. -/
def canBegin (c : Char) : Bool := c ∈ ['[', '-', ':', '_'] || Text.alphanumeric.has c

/-- The part of a text from a place on, both given in bytes. -/
def part? (piece : Text) (place size : Nat) : Option Text := (piece.dropBytes? place).bind (·.takeBytes? size)

/-- A directive with the threshold at its end, whose shape from a place on is given. -/
def ending? (piece : Text) (place : Nat) (shape : Text) (d : Directive) : Option Directive :=
  match shape with
  | [] => some d
  | '=' :: _ => do
    let word ← piece.dropBytes? (place + 1)
    let threshold ← thresholdAfter? word
    pure { d with threshold }
  | _ => none

/-- The field that a text asks for; a second equals sign ends the value. -/
def fieldPattern? (s : Text) : Option FieldPattern :=
  match s.cells '=' with
  | [] => none
  | [[]] => none
  | [name] => some { name }
  | name :: value :: _ => some { name, value := some value }

/-- A directive with the field after a brace, whose shape from a place on is given. -/
def inBraces? (piece : Text) (place : Nat) (shape : Text) (d : Directive) : Option Directive := do
  let size := Text.byteSize (shape.takeWhile (· != '\x7d'))
  let field ← (part? piece place size).bind fieldPattern?
  match shape.dropWhile (· != '\x7d') with
  | '\x7d' :: ']' :: tail => ending? piece (place + size + 2) tail { d with field := some field }
  | _ => none

/-- A directive with the span after a bracket, whose shape from a place on is given. -/
def inBrackets? (piece : Text) (place : Nat) (shape : Text) (d : Directive) : Option Directive := do
  let isName := fun c => c != ']' && c != '\x7b'
  let size := Text.byteSize (shape.takeWhile isName)
  let span ← part? piece place size
  match shape.dropWhile isName with
  | ']' :: tail => ending? piece (place + size + 1) tail { d with span := some span }
  | '\x7b' :: rest => inBraces? piece (place + size + 1) rest { d with span := if span = [] then none else some span }
  | _ => none

/-- The directive that a word alone is: a level, or else a target of which all is told. -/
def ofWord (word : Text) : Directive :=
  match threshold? word with
  | some threshold => { threshold }
  | none => { target := some word }

/-- The directive that a piece of a filter is. -/
def parse? (piece : Text) : Option Directive := do
  let shape := piece.trim
  guard (shape.head?.any canBegin)
  let isTarget := fun c => c != '=' && c != '['
  let size := Text.byteSize (shape.takeWhile isTarget)
  let target ← part? piece 0 size
  match shape.dropWhile isTarget with
  | [] => pure (ofWord piece)
  | '[' :: rest => inBrackets? piece (size + 1) rest { target := if size = 0 then none else some target }
  | tail => ending? piece size tail { target := some target }

end Directive

end Log

end Multiples
