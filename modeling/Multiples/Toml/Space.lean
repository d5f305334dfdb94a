import Multiples.Text.Reader

/-!
# Blanks, lines and comments of a TOML document

Blanks are spaces and tabs.  A line ends with a line feed, which a carriage return may precede; a carriage return
on its own is nothing.  A comment reaches to the end of its line and holds no control character but tabs.
-/

namespace Multiples

namespace Toml

/-- A space or a tab. -/
def isBlank (c : Char) : Bool := c = ' ' || c = '\t'

/-- Whether a character is outside ASCII. -/
def isForeign (c : Char) : Bool := decide (0x80 ≤ c.toNat)

/-- A printed character of ASCII, a tab, or a character outside ASCII. -/
def isPlain (c : Char) : Bool :=
  isForeign c || c = '\t' || (decide (0x20 ≤ c.toNat) && decide (c.toNat ≤ 0x7e))

/-- One blank. -/
def blank : Reader Unit := do
  let _ ← Reader.satisfying isBlank
  pure ()

/-- Any blanks. -/
def blanks : Reader Unit := do
  let _ ← Reader.run isBlank
  pure ()

/-- The end of a line. -/
def newline : Reader Unit := Reader.char '\n' <|> Reader.mark ['\r', '\n']

/-- A comment, up to the end of its line. -/
def comment : Reader Unit := do
  Reader.char '#'
  let _ ← Reader.run isPlain
  pure ()

/-- The rest of a line: blanks, perhaps a comment, and the end of the line or of the text. -/
def lineRest : Reader Unit := do
  blanks
  let _ ← Reader.maybe comment
  newline <|> Reader.finish

/-- Any blanks, line ends and comments. -/
def gap : Reader Unit := do
  let _ ← Reader.many (blank <|> newline <|> comment)
  pure ()

end Toml

end Multiples
