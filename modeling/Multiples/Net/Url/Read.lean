import Multiples.Net.Url.Authority

/-!
# Reading addresses

`Url.parse?` reads an address leniently: blanks around it, tabs and line ends inside it do not count, dot segments are
resolved, hosts are brought to one form, and characters that cannot stand in an address are percent-encoded.
-/

namespace Multiples

namespace Url

/-! ### Whole addresses -/

/-- Whether a character does not count at the ends of an address. -/
def isMargin (c : Char) : Bool := decide (c.toNat ≤ 0x20)

/-- An address without the characters that do not count. -/
def cleaned (s : Text) : Text :=
  ((s.dropWhile isMargin).reverse.dropWhile isMargin).reverse.filter fun c => c != '\t' && c != '\n' && c != '\r'

/-- Whether a character can stand in the name of a scheme. -/
def isSchemeChar (c : Char) : Bool := c.isAlphanum || c ∈ ['+', '-', '.']

/-- The scheme of an address, and what follows its colon. -/
def scheme? (s : Text) : Option (Scheme × Text) :=
  match s.dropWhile isSchemeChar with
  | ':' :: rest =>
    if s.head?.any Char.isAlpha then some (Scheme.ofName ((s.takeWhile isSchemeChar).map Char.toLower), rest) else none
  | _ => none

/-- The text of a query after its mark, in the text that follows a path. -/
def queryOf (scheme : Scheme) (s : Text) : Option Text :=
  match s.takeWhile (· != '#') with
  | '?' :: rest => some (Percent.encode (encodedInQuery scheme) rest)
  | _ => none

/-- The text of a fragment after its mark, in the text that follows a path. -/
def fragmentOf (s : Text) : Option Text :=
  match s.dropWhile (· != '#') with
  | _ :: rest => some (Percent.encode encodedInFragment rest)
  | [] => none

/-- The part of an address between its scheme and its query or fragment, and what follows it. -/
def splitQuery (s : Text) : Text × Text :=
  (s.takeWhile fun c => c != '?' && c != '#', s.dropWhile fun c => c != '?' && c != '#')

/-- The address after the two slashes before an authority. -/
def withAuthority? (scheme : Scheme) (front : Text) (tail : Text) : Option (Authority × Text) := do
  let path := front.dropWhile fun c => !scheme.isSlash c
  let authority ← authority? scheme (path ≠ [] ∨ tail ≠ []) (front.takeWhile fun c => !scheme.isSlash c)
  pure (authority, if path = [] ∧ ¬ scheme.isKnown then [] else resolvePath scheme (path.drop 1))

/-- Whether the first segment of a path is a drive. -/
def beginsWithDrive (path : Text) : Bool := isDrive ((path.drop 1).takeWhile (· != '/'))

/-- The host of a file, if it is named between two slashes and the path; this machine and a drive have none. -/
def fileHost? (host path : Text) : Option Authority :=
  (host? .file host).map fun name =>
    { host := if name = "localhost".toList ∨ beginsWithDrive path then [] else name }

/-- The host and the path of a file. -/
def file? (front : Text) : Option (Authority × Text) :=
  match front with
  | a :: b :: rest =>
    let host := rest.takeWhile fun c => !Scheme.isSlash .file c
    let path := filePath (rest.dropWhile fun c => !Scheme.isSlash .file c)
    if ¬ (Scheme.isSlash .file a ∧ Scheme.isSlash .file b) then some ({ host := [] }, filePath front)
    else if isDrive host then some ({ host := [] }, filePath rest)
    else if host = [] then some ({ host := [] }, path)
    else (fileHost? host path).map fun authority => (authority, path)
  | _ => some ({ host := [] }, filePath front)

/-- The authority, if there is one, and the path of an address. -/
def hierarchy? (scheme : Scheme) (front tail : Text) : Option (Option Authority × Text) :=
  match scheme, front with
  | .file, front => (file? front).map fun found => (some found.1, found.2)
  | .other name, '/' :: '/' :: rest =>
    (withAuthority? (.other name) rest tail).map fun found => (some found.1, found.2)
  | .other name, '/' :: rest => some (none, resolvePath (.other name) rest)
  | .other _, rest => some (none, Percent.encode Percent.isUnwritable rest)
  | scheme, rest =>
    (withAuthority? scheme (rest.dropWhile scheme.isSlash) tail).map fun found => (some found.1, found.2)

/-- The address that a text stands for. -/
def parse? (s : Text) : Option Url := do
  let (scheme, rest) ← scheme? (cleaned s)
  let (front, tail) := splitQuery rest
  let (authority, path) ← hierarchy? scheme front tail
  pure { scheme, authority, path, query := queryOf scheme tail, fragment := fragmentOf tail }

end Url

end Multiples
