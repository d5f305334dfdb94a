import Multiples.Toml.Moment
import Multiples.Toml.Number
import Multiples.Toml.Quoted

/-!
# Values of a TOML document

* `Toml.Value` is a value, `Toml.Entries` the entries of a table, `Toml.Origin` how a table came to be, which
  decides what may still be added to it;
* `Toml.addTo` adds an entry to a table through a dotted key;
* `Toml.value` reads a value: arrays and inline tables nest at most so many deep.
-/

namespace Multiples

namespace Toml

/-- How a table came to be: through its own header, on the way to the header of another table, on the way to a
dotted key, or between braces. -/
inductive Origin where
  | header
  | implied
  | dotted
  | inline
deriving DecidableEq, Repr

/-- A value.  What nothing asks for is not kept: the value of a float or of a moment. -/
inductive Value where
  | string (content : Text)
  | integer (i : Int)
  | boolean (b : Bool)
  | float
  | moment
  | array (items : List Value)
  | table (origin : Origin) (entries : List (Text × Value))
  | tables (earlier : List (List (Text × Value))) (last : List (Text × Value))
deriving Inhabited

/-- The entries of a table, in the order in which they were added. -/
abbrev Entries := List (Text × Value)

/-! ### Growing tables -/

/-- The entries with another value for a key that they have. -/
def replace (key : Text) (v : Value) (entries : Entries) : Entries :=
  entries.map fun e => if e.1 = key then (key, v) else e

/-- Changes the table at the end of a path.  Tables on the way are made where they are missing; a table that is
there is entered if its origin allows, an array of tables is entered at its last table, and other values are in
the way. -/
def changeAt (made : Origin) (enters : Origin → Bool) (change : Origin → Entries → Option Entries) :
    List Text → Origin → Entries → Option Entries
  | [], origin, entries => change origin entries
  | key :: path, _, entries =>
    match entries.lookup key with
    | none => do
      let inner ← changeAt made enters change path made []
      pure (entries ++ [(key, .table made inner)])
    | some (.table origin inner) =>
      if enters origin then do
        let inner ← changeAt made enters change path origin inner
        pure (replace key (.table origin inner) entries)
      else none
    | some (.tables earlier last) => do
      let last ← changeAt made enters change path .header last
      pure (replace key (.tables earlier last) entries)
    | some _ => none

/-- Adds an entry with a new key. -/
def addNew (key : Text) (v : Value) (entries : Entries) : Option Entries :=
  if (entries.lookup key).isSome then none else some (entries ++ [(key, v)])

/-- Adds an entry through a dotted key, which only enters tables that no header and no braces have closed. -/
def addTo (path : List Text) (key : Text) (v : Value) (origin : Origin) (entries : Entries) : Option Entries :=
  changeAt .dotted (fun o => o = .implied || o = .dotted)
    (fun o inner => if path = [] ∨ o = .dotted then addNew key v inner else none) path origin entries

/-! ### Keys -/

/-- Whether a character can stand in a key without quotes. -/
def isKeyChar (c : Char) : Bool := c.isAlphanum || c = '_' || c = '-'

/-- One part of a key. -/
def keyPart : Reader Text := do
  blanks
  let part ← basicString <|> literalString <|> Reader.run1 isKeyChar
  blanks
  pure part

/-- How deep arrays and inline tables may nest, and how many parts a key may have. -/
def depthLimit : Nat := 79

/-- A key: its parts with points between them, as the path to a table and the last part. -/
def dottedKey : Reader (List Text × Text) := do
  let parts ← Reader.separated keyPart (Reader.char '.')
  guard (parts.length ≤ depthLimit)
  match parts.getLast? with
  | some last => pure (parts.dropLast, last)
  | none => failure

/-! ### Reading values -/

/-- A value that holds no other. -/
def scalar : Reader Value :=
  (do let s ← string; pure (.string s))
  <|> (do moment; pure .moment)
  <|> (do float; pure .float)
  <|> (do let i ← integer; pure (.integer i))
  <|> (do Reader.mark ['t', 'r', 'u', 'e']; pure (.boolean true))
  <|> (do Reader.mark ['f', 'a', 'l', 's', 'e']; pure (.boolean false))

/-- A value with blanks, line ends and comments around it. -/
def spaced (item : Reader Value) : Reader Value := do
  gap
  let v ← item
  gap
  pure v

/-- An array, given how its items are read; a comma may follow the last one. -/
def array (item : Reader Value) : Reader Value := do
  Reader.char '['
  let items ← Reader.maybe (do
    let items ← Reader.separated (spaced item) (Reader.char ',')
    let _ ← Reader.maybe (Reader.char ',')
    pure items)
  gap
  Reader.char ']'
  pure (.array (items.getD []))

/-- A key and its value. -/
def keyValue (item : Reader Value) : Reader ((List Text × Text) × Value) := do
  let key ← dottedKey
  Reader.char '='
  blanks
  let v ← item
  pure (key, v)

/-- A table between braces, on one line. -/
def inlineTable (item : Reader Value) : Reader Value := do
  Reader.char '\x7b'
  blanks
  let pairs ← Reader.maybe (Reader.separated (do let p ← keyValue item; blanks; pure p) (Reader.char ','))
  Reader.char '\x7d'
  match (pairs.getD []).foldlM (fun entries p => addTo p.1.1 p.1.2 p.2 .inline entries) ([] : Entries) with
  | some entries => pure (.table .inline entries)
  | none => failure

/-- A value in which arrays and inline tables nest at most so many deep. -/
def value : Nat → Reader Value
  | 0 => scalar
  | depth + 1 => scalar <|> array (value depth) <|> inlineTable (value depth)

end Toml

end Multiples
