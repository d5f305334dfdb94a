import Multiples.Text.CharTable

/-!
# Blank characters

The characters with the Unicode property White_Space.

* `Text.trim` takes them off both ends of a text;
* `Text.words` are the pieces between them.
-/

namespace Multiples

namespace Text

/-- The Unicode property White_Space. -/
def whiteSpace : CharTable :=
  [(0x09, 0x0d), (0x20, 0x20), (0x85, 0x85), (0xa0, 0xa0), (0x1680, 0x1680), (0x2000, 0x200a),
   (0x2028, 0x2029), (0x202f, 0x202f), (0x205f, 0x205f), (0x3000, 0x3000)]

/-- Whether a character is white space. -/
def isBlank (c : Char) : Bool := whiteSpace.has c

/-- The pieces of a text between its blanks. -/
def words : Text → List Text
  | [] => []
  | c :: s =>
    if isBlank c then words s
    else
      match s with
      | [] => [[c]]
      | next :: more =>
        if isBlank next then [c] :: words (next :: more)
        else
          match words (next :: more) with
          | word :: rest => (c :: word) :: rest
          | [] => [[c]]

/-- A text without the blanks at its two ends. -/
def trim (s : Text) : Text := ((s.dropWhile isBlank).reverse.dropWhile isBlank).reverse

end Text

end Multiples
