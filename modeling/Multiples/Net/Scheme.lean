import Multiples.Text.Basic

/-!
# Schemes of addresses

The schemes of the web have rules of their own: they name a host, take backslashes for slashes, and leave their own port
out.  All other schemes are known by name only, and are read more literally.
-/

namespace Multiples

/-- The schemes with rules of their own, and all others by name. -/
inductive Scheme where
  | http
  | https
  | ws
  | wss
  | ftp
  | file
  | other (name : Text)
deriving DecidableEq, Repr

namespace Scheme

/-- The schemes with rules of their own, by name. -/
def known : List (Text × Scheme) :=
  [("http".toList, .http), ("https".toList, .https), ("ws".toList, .ws), ("wss".toList, .wss), ("ftp".toList, .ftp),
   ("file".toList, .file)]

/-- The scheme of a name in small letters. -/
def ofName (name : Text) : Scheme := (known.lookup name).getD (.other name)

/-- How a scheme is written. -/
def name : Scheme → Text
  | .http => "http".toList
  | .https => "https".toList
  | .ws => "ws".toList
  | .wss => "wss".toList
  | .ftp => "ftp".toList
  | .file => "file".toList
  | .other name => name

/-- Whether a scheme has rules of its own. -/
def isKnown : Scheme → Bool
  | .other _ => false
  | _ => true

/-- Whether requests can be sent over a scheme. -/
def isSpoken (s : Scheme) : Bool := s = .http || s = .https

/-- The port that a scheme is spoken at when none is given. -/
def port? : Scheme → Option Nat
  | .http => some 80
  | .https => some 443
  | .ws => some 80
  | .wss => some 443
  | .ftp => some 21
  | _ => none

/-- Whether a character parts two segments of a path. -/
def isSlash (s : Scheme) (c : Char) : Bool := c = '/' || (s.isKnown && c = '\\')

end Scheme

end Multiples
