import Multiples.Net.Percent
import Multiples.Net.Scheme
import Multiples.Text.Decimal

/-!
# Addresses of resources

An address names a scheme, most often a host, perhaps a port, a path, and perhaps a query and a fragment.

* `Url.text` writes an address;
* `Url.target` is what a request to the address asks for;
* `Url.anonymous` is the address without the user name.
-/

namespace Multiples

/-- Who is asked, and as whom: a user name and a password, which may be empty, a host, and a port other than the one
of the scheme. -/
structure Authority where
  user : Text := []
  password : Text := []
  host : Text
  port : Option Nat := none
deriving DecidableEq, Repr

/-- The address of a resource. -/
structure Url where
  scheme : Scheme
  authority : Option Authority
  path : Text
  query : Option Text := none
  fragment : Option Text := none
deriving DecidableEq, Repr

namespace Url

/-! ### Writing -/

/-- A user name and a password before a host. -/
def userText (a : Authority) : Text :=
  let password := if a.password = [] then [] else ':' :: a.password
  if a.user ++ password = [] then [] else a.user ++ password ++ ['@']

/-- An authority after two slashes. -/
def authorityText (a : Authority) : Text :=
  let port := match a.port with
    | some n => ':' :: Decimal.ofNat n
    | none => []
  '/' :: '/' :: userText a ++ a.host ++ port

/-- A part of an address after its mark. -/
def marked (mark : Char) : Option Text → Text
  | some t => mark :: t
  | none => []

/-- What a request to the address asks for. -/
def target (u : Url) : Text := u.path ++ marked '?' u.query

/-- What stands between the scheme and the path.  A path that begins with two slashes would be taken for an authority, so
a dot segment comes before it where there is none. -/
def beforePath (u : Url) : Text :=
  match u.authority with
  | some a => authorityText a
  | none => if (Text.after? ['/', '/'] u.path).isSome then ['/', '.'] else []

/-- The address as a text. -/
def text (u : Url) : Text := u.scheme.name ++ ':' :: u.beforePath ++ u.target ++ marked '#' u.fragment

/-! ### Asking -/

/-- The host of an address, if it has one. -/
def host (u : Url) : Text := (u.authority.map Authority.host).getD []

/-- The host of an address as it is looked up: without the square brackets around groups. -/
def lookupName (u : Url) : Text := u.host.filter fun c => c != '[' && c != ']'

/-- The port of an address. -/
def port (u : Url) : Nat := ((u.authority.bind Authority.port).orElse fun _ => u.scheme.port?).getD 0

/-- Whether the address leads to a port of a host. -/
def isAt (u : Url) (host : Text) (port : Nat) : Bool := u.host == host && u.port == port

/-- Whether a part of an address can be decoded. -/
def isDecodable (s : Text) : Bool := (Utf8.decode? (Percent.decode s)).isSome

/-- An authority without its user name and password, if they can be decoded. -/
def withoutUser (a : Authority) : Authority :=
  if isDecodable a.user ∧ (a.user ≠ [] ∨ isDecodable a.password) then { a with user := [], password := [] } else a

/-- An address that does not tell as whom to ask. -/
def anonymous (u : Url) : Url := { u with authority := u.authority.map withoutUser }

end Url

end Multiples
