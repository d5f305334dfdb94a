import Multiples.Toml.Value

/-!
# TOML documents

A document is a sequence of statements, one a line: a header opens a table, a double header one more table of an
array, and a key and its value go into the table opened last.  The statements of a document are checked in order
against the tables that the earlier ones have made.

`Toml.read?` reads a whole document, after a byte order mark if there is one.
-/

namespace Multiples

namespace Toml

/-- One statement of a document. -/
inductive Statement where
  | header (path : List Text) (name : Text)
  | arrayHeader (path : List Text) (name : Text)
  | entry (path : List Text) (key : Text) (v : Value)

/-! ### Reading statements -/

/-- A header, between brackets. -/
def tableHeader : Reader Statement := do
  Reader.char '['
  let key ← dottedKey
  Reader.char ']'
  lineRest
  pure (.header key.1 key.2)

/-- A header of an array of tables, between double brackets. -/
def arrayHeader : Reader Statement := do
  Reader.mark ['[', '[']
  let key ← dottedKey
  Reader.mark [']', ']']
  lineRest
  pure (.arrayHeader key.1 key.2)

/-- A key and its value, on a line. -/
def entry : Reader Statement := do
  let pair ← keyValue (value depthLimit)
  lineRest
  pure (.entry pair.1.1 pair.1.2 pair.2)

/-- A line without a statement. -/
def emptyLine : Reader (Option Statement) := do
  (do comment; newline <|> Reader.finish) <|> newline
  pure none

/-- A statement, or a line without one, and the blanks that follow. -/
def line : Reader (Option Statement) := do
  let found ← emptyLine <|> (do
    let s ← arrayHeader <|> tableHeader <|> entry
    pure (some s))
  blanks
  pure found

/-- The statements of a document. -/
def statements : Reader (List Statement) := do
  let _ ← Reader.maybe (Reader.char '\ufeff')
  blanks
  let lines ← Reader.many line
  Reader.finish
  pure (lines.filterMap id)

/-! ### Building tables -/

/-- A document as far as it is built: its tables, and the path to the table opened last. -/
structure Draft where
  entries : Entries := []
  current : List Text := []

/-- Changes a table that a header path leads to; such a path enters every table but an inline one. -/
def atHeader (change : Origin → Entries → Option Entries) (path : List Text) (entries : Entries) :
    Option Entries :=
  changeAt .implied (fun o => o != .inline) change path .header entries

/-- Opens a table: a new one, or one that so far was only on the way to another. -/
def openTable (name : Text) (entries : Entries) : Option Entries :=
  match entries.lookup name with
  | none => some (entries ++ [(name, .table .header [])])
  | some (.table .implied inner) => some (replace name (.table .header inner) entries)
  | some _ => none

/-- Opens one more table of an array of tables. -/
def openNext (name : Text) (entries : Entries) : Option Entries :=
  match entries.lookup name with
  | none => some (entries ++ [(name, .tables [] [])])
  | some (.tables earlier last) => some (replace name (.tables (earlier ++ [last]) []) entries)
  | some _ => none

/-- Adds a statement to a document. -/
def Draft.add (d : Draft) : Statement → Option Draft
  | .header path name => do
    let entries ← atHeader (fun _ inner => openTable name inner) path d.entries
    pure { entries, current := path ++ [name] }
  | .arrayHeader path name => do
    let entries ← atHeader (fun _ inner => openNext name inner) path d.entries
    pure { entries, current := path ++ [name] }
  | .entry path key v => do
    let entries ← atHeader (fun origin inner => addTo path key v origin inner) d.current d.entries
    pure { d with entries }

/-- The top table of a document, if the text is one. -/
def read? (s : Text) : Option Entries := do
  let found ← Reader.whole? statements s
  let draft ← found.foldlM Draft.add {}
  pure draft.entries

end Toml

end Multiples
