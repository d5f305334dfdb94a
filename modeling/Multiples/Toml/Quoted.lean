import Multiples.Text.Hex
import Multiples.Toml.Space

/-!
# Strings of a TOML document

Four forms: between double quotes, with escapes, or between single quotes, without; each also between three quotes,
over several lines.  In the long forms a line end right after the opening is dropped, line ends are line feeds, and
one or two quotes may stand anywhere, also right before the closing ones.
-/

namespace Multiples

namespace Toml

/-! ### Escapes -/

/-- A character given by a fixed number of hexadecimal digits. -/
def codePoint (digits : Nat) : Reader Text := do
  let ds ← Reader.upTo (Reader.satisfying Hex.isDigit) digits
  let n := Hex.nat ds
  guard (ds.length = digits ∧ n.isValidChar)
  pure [Char.ofNat n]

/-- What an escape stands for. -/
def escape : Reader Text := do
  Reader.char '\\'
  let c ← Reader.satisfying fun _ => true
  match c with
  | 'b' => pure ['\x08']
  | 'f' => pure ['\x0c']
  | 'n' => pure ['\n']
  | 'r' => pure ['\r']
  | 't' => pure ['\t']
  | '"' => pure ['"']
  | '\\' => pure ['\\']
  | 'u' => codePoint 4
  | 'U' => codePoint 8
  | _ => failure

/-! ### Strings on one line -/

/-- A string between double quotes. -/
def basicString : Reader Text := do
  Reader.char '"'
  let parts ← Reader.many (Reader.run1 (fun c => isPlain c && c != '"' && c != '\\') <|> escape)
  Reader.char '"'
  pure parts.flatten

/-- A string between single quotes. -/
def literalString : Reader Text := do
  Reader.char '\''
  let content ← Reader.run fun c => isPlain c && c != '\''
  Reader.char '\''
  pure content

/-! ### Strings over several lines -/

/-- A line end as content. -/
def lineFeed : Reader Text := do
  newline
  pure ['\n']

/-- A backslash at the end of a line, which joins it with the next text. -/
def lineJoin : Reader Text := do
  Reader.char '\\'
  blanks
  newline
  let _ ← Reader.many (blank <|> newline)
  pure []

/-- One or two quotes as content. -/
def fewQuotes (quote : Char) : Reader Text := do
  let quotes ← Reader.run1 (· == quote)
  guard (quotes.length ≤ 2)
  pure quotes

/-- The closing quotes and those right before them, which are content. -/
def closingQuotes (quote : Char) : Reader Text := do
  let quotes ← Reader.run1 (· == quote)
  guard (3 ≤ quotes.length ∧ quotes.length ≤ 5)
  pure (quotes.drop 3)

/-- A string between three quotes, given what it may hold besides quotes. -/
def longString (quote : Char) (part : Reader Text) : Reader Text := do
  Reader.mark [quote, quote, quote]
  let _ ← Reader.maybe newline
  let parts ← Reader.many (part <|> fewQuotes quote)
  let last ← closingQuotes quote
  pure (parts.flatten ++ last)

/-- A string between three double quotes. -/
def longBasicString : Reader Text :=
  longString '"' (Reader.run1 (fun c => isPlain c && c != '"' && c != '\\') <|> lineJoin <|> escape <|> lineFeed)

/-- A string between three single quotes. -/
def longLiteralString : Reader Text :=
  longString '\'' (Reader.run1 (fun c => isPlain c && c != '\'') <|> lineFeed)

/-- A string in any form. -/
def string : Reader Text := fun s =>
  if (Text.after? ['"', '"', '"'] s).isSome then longBasicString s
  else if (Text.after? ['\'', '\'', '\''] s).isSome then longLiteralString s
  else (basicString <|> literalString) s

end Toml

end Multiples
