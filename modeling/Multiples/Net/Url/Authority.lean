import Multiples.Net.Domain
import Multiples.Net.Groups
import Multiples.Net.Url.Basic
import Multiples.Net.Url.Path

/-!
# Authorities of addresses

The part of an address between the two slashes and the path: perhaps a user name and a password, a host, and perhaps a
port.

* `Url.host?` brings a host to one form: numeric hosts to four octets or to the shortest form of eight groups, and names
  to ASCII;
* `Url.authority?` reads an authority.
-/

namespace Multiples

namespace Url

/-! ### Hosts -/

/-- The host between square brackets. -/
def groups? (s : Text) : Option Text :=
  match s.reverse with
  | ']' :: inside => (Reader.whole? Groups.reader inside.reverse).map fun groups => '[' :: Groups.text groups ++ [']']
  | _ => none

/-- A label for a number; a mark of base sixteen without digits counts as zero. -/
def numberLabel (s : Text) : Text := if s = "0x".toList then ['0'] else s

/-- The labels of a name; a dot at its end does not count. -/
def labels (name : Text) : List Text :=
  let cells := name.cells '.'
  if cells.getLast? = some [] then cells.dropLast else cells

/-- Whether a name ends in a number, so that it has to be a numeric host. -/
def endsInNumber (name : Text) : Bool :=
  (labels name).getLast?.any fun s => (s != [] && s.all Char.isDigit) || (Octets.number? (numberLabel s)).isSome

/-- The host of a known scheme that a text stands for. -/
def knownHost? (s : Text) : Option Text := do
  let decoded ← Utf8.decode? (Percent.decode s)
  let name ← Domain.ascii? decoded
  if name = [] then none
  else if endsInNumber name then (Octets.ofNumbers? ((labels name).map numberLabel)).map Octets.text
  else some name

/-- The host of another scheme that a text stands for. -/
def otherHost? (s : Text) : Option Text :=
  if s.any fun c => c = '\x00' || c ∈ " #/:<>?@[\\]^|".toList then none
  else some (Percent.encode Percent.isUnwritable s)

/-- The host that a text stands for. -/
def host? (scheme : Scheme) (s : Text) : Option Text :=
  match s with
  | '[' :: inside => groups? inside
  | s => if scheme.isKnown then knownHost? s else otherHost? s

/-! ### Authorities -/

/-- The text before and from the first colon outside square brackets. -/
def splitPort : Bool → Text → Text × Text
  | _, [] => ([], [])
  | inside, c :: s =>
    if c = ':' ∧ ¬ inside then ([], c :: s)
    else
      let rest := splitPort (c = '[' || (inside && c != ']')) s
      (c :: rest.1, rest.2)

/-- The port in a text, which may leave it out; the port of the scheme is left out. -/
def port? (scheme : Scheme) (s : Text) : Option (Option Nat) :=
  match s with
  | ':' :: [] => some none
  | ':' :: digits => (Decimal.natBelow? 0x10000 digits).map fun n => if scheme.port? = some n then none else some n
  | _ => some none

/-- The user name and the password before the last at sign, and what follows it; none without an at sign. -/
def splitUser (s : Text) : Option Text × Text :=
  match s.reverse.dropWhile (· != '@') with
  | _ :: user => (some user.reverse, (s.reverse.takeWhile (· != '@')).reverse)
  | [] => (none, s)

/-- The authority that a text stands for; `more` says whether a path, a query or a fragment follows.  Only schemes
without rules of their own can leave the host out, and then all of the authority. -/
def authority? (scheme : Scheme) (more : Bool) (s : Text) : Option Authority := do
  let (user, rest) := splitUser s
  let userText := user.getD []
  let name := Percent.encode encodedInUser (userText.takeWhile (· != ':'))
  let password := Percent.encode encodedInUser ((userText.dropWhile (· != ':')).drop 1)
  let (hostText, portText) := splitPort false rest
  let port ← port? scheme portText
  if hostText = [] then
    guard (¬ scheme.isKnown ∧ portText = [] ∧ name = [] ∧ password = [] ∧ ¬ (user = some [] ∧ more))
    pure { host := [] }
  else
    let host ← host? scheme hostText
    pure { user := name, password, host, port }

end Url

end Multiples
