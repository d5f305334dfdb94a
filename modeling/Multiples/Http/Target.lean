import Multiples.Text.Basic

/-!
# Request targets

What a request asks for: a path with a query, an absolute address, an authority alone, or everything.

`Target.path?` gives the path of a target, or nothing if the target is not valid.  The query and the fragment are
no part of the path, and the path stays as it is written.
-/

namespace Multiples

namespace Target

/-! ### Characters -/

/-- Whether a character is between two code points. -/
def between (low high : Nat) (c : Char) : Bool := decide (low ≤ c.toNat) && decide (c.toNat ≤ high)

/-- The characters of an authority. -/
def isAuthorityChar (c : Char) : Bool := c.isAlphanum || c ∈ "!$&'()*+,-.:;=@[]_~".toList

/-- The characters of a path. -/
def isPathChar (c : Char) : Bool :=
  c ∈ ['!', '=', '|', '~', '"', '\x7b', '\x7d'] || between 0x24 0x3b c || between 0x40 0x5f c
    || between 0x61 0x7a c || decide (0x80 ≤ c.toNat)

/-- The characters of a query. -/
def isQueryChar (c : Char) : Bool :=
  c ∈ ['!', '='] || between 0x24 0x3b c || between 0x3f 0x7e c || decide (0x80 ≤ c.toNat)

/-- The characters of a scheme. -/
def isSchemeChar (c : Char) : Bool := c.isAlphanum || c ∈ ['+', '-', '.', '~']

/-! ### Authorities -/

/-- What has been seen of an authority so far. -/
structure Seen where
  colons : Nat := 0
  opened : Bool := false
  closed : Bool := false
  percent : Bool := false

/-- Reads one more character of an authority.  What stands before an at sign or between brackets may hold colons
and percent signs; the rest may hold one colon, before the port. -/
def Seen.add (s : Seen) (c : Char) : Option Seen :=
  if c = ':' then if s.colons < 8 then some { s with colons := s.colons + 1 } else none
  else if c = '[' then if s.percent ∨ s.opened then none else some { s with opened := true }
  else if c = ']' then
    if s.opened ∧ ¬ s.closed then some { s with closed := true, colons := 0, percent := false } else none
  else if c = '@' then some { s with colons := 0, percent := false }
  else if c = '%' then some { s with percent := true }
  else if isAuthorityChar c then some s
  else none

/-- Whether a text is an authority. -/
def isAuthority (s : Text) : Bool :=
  match s.foldlM Seen.add {} with
  | some seen => seen.opened == seen.closed && decide (seen.colons ≤ 1) && !seen.percent && s.getLast? != some '@'
  | none => false

/-- An authority, up to the path, the query or the fragment, and what follows it. -/
def authority? (s : Text) : Option (Text × Text) :=
  let inside := fun c => c != '/' && c != '?' && c != '#'
  if isAuthority (s.takeWhile inside) then some (s.takeWhile inside, s.dropWhile inside) else none

/-! ### Paths -/

/-- The path at the beginning of a text, if the path and the query that may follow it are valid. -/
def pathBefore? (s : Text) : Option Text :=
  let path := s.takeWhile fun c => c != '?' && c != '#'
  let query := match s.dropWhile fun c => c != '?' && c != '#' with
    | '?' :: rest => rest.takeWhile (· != '#')
    | _ => []
  if path.all isPathChar && query.all isQueryChar then some path else none

/-! ### Schemes -/

/-- What follows a scheme, if a text begins with one. -/
def afterScheme (s : Text) : Option Text := Text.after? [':', '/', '/'] (s.dropWhile isSchemeChar)

/-- The longest scheme. -/
def schemeLimit : Nat := 64

/-- The greatest length of a target in bytes. -/
def sizeLimit : Nat := 65534

/-- The path of a target that begins with neither a slash nor a star. -/
def pathOfOther? (s : Text) : Option Text :=
  match (if s.length ≤ 3 then none else afterScheme s) with
  | some rest =>
    if schemeLimit < (s.takeWhile isSchemeChar).length then none
    else
      match authority? rest with
      | some ([], _) => none
      | some (_, path) => (pathBefore? path).map fun p => if p = [] then ['/'] else p
      | none => none
  | none =>
    match authority? s with
    | some (_, []) => some []
    | _ => none

/-- The path that a target asks for; an authority alone asks for the empty path. -/
def path? (s : Text) : Option Text :=
  if s = [] ∨ sizeLimit < s.byteSize then none
  else if s = ['*'] then some s
  else if s.head? = some '/' then pathBefore? s
  else pathOfOther? s

end Target

end Multiples
