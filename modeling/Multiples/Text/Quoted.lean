import Multiples.Text.GraphemeExtend
import Multiples.Text.Unprintable

/-!
# Quoted text

The form in which a text is shown inside a message: between quotes, with every character that could be
mistaken for something else written as an escape.

* `Text.showsAsIs` says which characters stand for themselves;
* `Text.quoted` writes a text between quotes.
-/

namespace Multiples

namespace Text

/-- The letters without a shape, which fill the place of a missing part of a Korean syllable. -/
def fillers : CharTable := [(0x115f, 0x1160), (0x3164, 0x3164), (0xffa0, 0xffa0)]

/-- The halfwidth sound marks.  They extend the letter before them, but take a place of their own. -/
def halfwidthMarks : CharTable := [(0xff9e, 0xff9f)]

/-- Whether a character stands for itself between quotes: it has a printed form of its own. -/
def showsAsIs (c : Char) : Bool :=
  halfwidthMarks.has c || !(unprintable.has c || fillers.has c || graphemeExtend.has c)

/-- A code point in lower-case hexadecimal digits between braces. -/
def codePointEscape (c : Char) : Text :=
  ['\\', 'u', '\x7b'] ++ Nat.toDigits 16 c.toNat ++ ['\x7d']

/-- How one character is written between quotes. -/
def quotedChar (c : Char) : Text :=
  if c = '\x00' then ['\\', '0']
  else if c = '\t' then ['\\', 't']
  else if c = '\r' then ['\\', 'r']
  else if c = '\n' then ['\\', 'n']
  else if c = '"' then ['\\', '"']
  else if c = '\\' then ['\\', '\\']
  else if showsAsIs c then [c]
  else codePointEscape c

/-- A text between quotes. -/
def quoted (s : Text) : Text := '"' :: s.flatMap quotedChar ++ ['"']

end Text

end Multiples
