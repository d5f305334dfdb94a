import Multiples.Text.Decimal

/-!
# Readers

A reader takes something off the beginning of a text, or fails.  An alternative starts again where the reader
before it started, so a reader that fails takes nothing.
-/

namespace Multiples

/-- Takes a value off the beginning of a text. -/
abbrev Reader := StateT Text Option

namespace Reader

/-- One character of a kind. -/
def satisfying (kind : Char → Bool) : Reader Char
  | [] => none
  | c :: s => if kind c then some (c, s) else none

/-- One known character. -/
def char (c : Char) : Reader Unit := fun s => (Text.after? [c] s).map fun rest => ((), rest)

/-- A known text. -/
def mark (m : Text) : Reader Unit := fun s => (Text.after? m s).map fun rest => ((), rest)

/-- The longest run of characters of a kind. -/
def run (kind : Char → Bool) : Reader Text := fun s => some (s.takeWhile kind, s.dropWhile kind)

/-- The longest run of characters of a kind, if it has one. -/
def run1 (kind : Char → Bool) : Reader Text := fun s =>
  if s.takeWhile kind = [] then none else some (s.takeWhile kind, s.dropWhile kind)

/-- The end of the text. -/
def finish : Reader Unit := fun s => if s = [] then some ((), []) else none

/-- What a reader takes, if it can take anything. -/
def maybe {α : Type} (r : Reader α) : Reader (Option α) := (do let a ← r; pure (some a)) <|> pure none

/-- What a reader takes again and again, at most so many times. -/
def upTo {α : Type} (r : Reader α) : Nat → Reader (List α)
  | 0 => pure []
  | n + 1 =>
    (do
      let a ← r
      let more ← upTo r n
      pure (a :: more))
    <|> pure []

/-- What a reader takes again and again, at most once for each character of a text. -/
def along {α : Type} (r : Reader α) : Text → Reader (List α)
  | [] => pure []
  | _ :: left =>
    (do
      let a ← r
      let more ← along r left
      pure (a :: more))
    <|> pure []

/-- What a reader takes again and again, until it fails.  A reader that always takes at least one character comes to
its end within the text it reads. -/
def many {α : Type} (r : Reader α) : Reader (List α) := fun s => along r s s

/-- What a reader takes, once or more, with a separator between every two. -/
def separated {α : Type} (r : Reader α) (sep : Reader Unit) : Reader (List α) := do
  let first ← r
  let more ← many (do sep; r)
  pure (first :: more)

/-- What a reader takes, when it takes a whole text. -/
def whole? {α : Type} (r : Reader α) (s : Text) : Option α :=
  match r s with
  | some (a, []) => some a
  | _ => none

end Reader

end Multiples
