import Multiples.Log.Record
import Multiples.Text.Blank
import Multiples.Text.Decimal
import Multiples.Text.Quoted

/-!
# Log lines

A record is written on one line, for people or for programs: as words, or as an object with quoted names.

* `Log.Record.plainLine` is the line for people.  Characters of the message that could move a terminal's cursor or
  change its state are written as escapes;
* `Log.Record.objectLine` is the line for programs.
-/

namespace Multiples

namespace Log

/-- A datum as a word. -/
def Datum.word : Datum → Text
  | .text t => t
  | .number n => Decimal.ofNat n

/-! ### For people -/

/-- The characters of ASCII that a terminal acts on, line ends and tabs aside. -/
def controls : List Char := ['\x07', '\x08', '\x0c', '\x1b', '\x7f']

/-- A character of a message. -/
def messageChar (c : Char) : Text :=
  if c ∈ controls then
    let digits := Nat.toDigits 16 c.toNat
    ['\\', 'x'] ++ List.replicate (2 - digits.length) '0' ++ digits
  else if 0x80 ≤ c.toNat ∧ c.toNat < 0xa0 then Text.codePointEscape c
  else [c]

/-- The message of a record. -/
def Record.plainMessage (r : Record) : Text := r.message.flatMap messageChar

/-- The data of a record, each as its name and its value. -/
def Record.data (r : Record) : List Text := r.fields.map fun f => f.1 ++ '=' :: f.2.word

/-- The words that the data of a record consist of. -/
def Record.words (r : Record) : List Text := r.data.flatMap Text.words

/-- A record for people. -/
def Record.plainLine (r : Record) : Text :=
  Text.glue [' '] (r.level.label :: (r.target ++ [':']) :: r.plainMessage :: r.data)

/-! ### For programs -/

/-- A character inside a quoted name or value. -/
def objectChar (c : Char) : Text :=
  if c = '"' ∨ c = '\\' then ['\\', c]
  else if c.toNat < 0x20 then
    let digits := Nat.toDigits 16 c.toNat
    ['\\', 'u'] ++ List.replicate (4 - digits.length) '0' ++ digits
  else [c]

/-- A text between quotes. -/
def objectText (t : Text) : Text := '"' :: (t.flatMap objectChar ++ ['"'])

/-- A name and a value that is already written. -/
def member (name value : Text) : Text := objectText name ++ ':' :: value

/-- Members between braces. -/
def object (members : List Text) : Text := '\x7b' :: (Text.glue [','] members ++ ['\x7d'])

/-- A datum as a value. -/
def Datum.value : Datum → Text
  | .text t => objectText t
  | .number n => Decimal.ofNat n

/-- A record for programs. -/
def Record.objectLine (r : Record) : Text :=
  object [
    member "level".toList (objectText r.level.label),
    member "fields".toList (object
      (member "message".toList (objectText r.message) :: r.fields.map fun f => member f.1 f.2.value)),
    member "target".toList (objectText r.target)]

end Log

end Multiples
