import Multiples.Http.Message

/-!
# Reading a body

A body is read part by part, until it ends, fails, grows too large, or takes too long.  The first of these events
decides, and nothing that was read before counts in the last three.  The time is looked at before the body is: when
a pause ends just as the time is up, the time is up.
-/

namespace Multiples

/-- How the reading of a body ends. -/
inductive Reading where
  | whole (bytes : List UInt8)
  | broken (reason : Text)
  | expired
deriving DecidableEq, Repr

namespace Body

/-- What is said of a body that is too large. -/
def tooLarge : Text := "length limit exceeded".toList

/-- Goes on reading, after a time spent and with the bytes read so far. -/
def readOn (maxSize maxMilliseconds : Nat) : Nat → List UInt8 → List BodyPart → Reading
  | _, bytes, [] => .whole bytes
  | spent, bytes, .chunk more :: parts =>
    if maxSize < (bytes ++ more).length then .broken tooLarge
    else readOn maxSize maxMilliseconds spent (bytes ++ more) parts
  | spent, bytes, .pause ms :: parts =>
    if maxMilliseconds ≤ spent + ms then .expired else readOn maxSize maxMilliseconds (spent + ms) bytes parts
  | _, _, .stall :: _ => .expired
  | _, _, .failure reason :: _ => .broken reason

/-- Reads a body within limits on its size and its time. -/
def read (maxSize maxSeconds : Nat) (parts : List BodyPart) : Reading :=
  readOn maxSize (1000 * maxSeconds) 0 [] parts

end Body

end Multiples
