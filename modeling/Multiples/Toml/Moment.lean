import Multiples.Text.Reader

/-!
# Dates and times of a TOML document

A date, a time, or both with or without an offset.  The parts have a fixed number of digits; a day exists in its
month, and a leap second in every minute.
-/

namespace Multiples

namespace Toml

/-- A number of a fixed number of digits, between two limits. -/
def fixed (size low high : Nat) : Reader Nat := do
  let ds ← Reader.upTo (Reader.satisfying Char.isDigit) size
  guard (ds.length = size)
  let n := Nat.ofDigitChars 10 ds 0
  guard (low ≤ n ∧ n ≤ high)
  pure n

/-- Whether a year has a leap day. -/
def isLeap (year : Nat) : Bool := year % 4 = 0 && (year % 100 != 0 || year % 400 = 0)

/-- The number of days in a month. -/
def daysIn (year month : Nat) : Nat :=
  if month = 2 then (if isLeap year then 29 else 28)
  else if month ∈ [4, 6, 9, 11] then 30
  else 31

/-- A date. -/
def date : Reader Unit := do
  let year ← fixed 4 0 9999
  Reader.char '-'
  let month ← fixed 2 1 12
  Reader.char '-'
  let _ ← fixed 2 1 (daysIn year month)
  pure ()

/-- A fraction of a second. -/
def secondFraction : Reader Unit := do
  Reader.char '.'
  let _ ← Reader.run1 Char.isDigit
  pure ()

/-- A time of day. -/
def time : Reader Unit := do
  let _ ← fixed 2 0 23
  Reader.char ':'
  let _ ← fixed 2 0 59
  Reader.char ':'
  let _ ← fixed 2 0 60
  let _ ← Reader.maybe secondFraction
  pure ()

/-- An offset from universal time. -/
def offset : Reader Unit :=
  Reader.char 'Z' <|> Reader.char 'z' <|> do
    Reader.char '+' <|> Reader.char '-'
    let _ ← fixed 2 0 23
    Reader.char ':'
    let _ ← fixed 2 0 59
    pure ()

/-- A time of day after a date. -/
def timeAfterDate : Reader Unit := do
  Reader.char 'T' <|> Reader.char 't' <|> Reader.char ' '
  time
  let _ ← Reader.maybe offset
  pure ()

/-- A date, a time, or both. -/
def moment : Reader Unit :=
  (do
    date
    let _ ← Reader.maybe timeAfterDate
    pure ())
  <|> time

end Toml

end Multiples
