import Multiples.Net.Groups

/-!
# Socket addresses

The address of one end of a connection: a host, of version 4 or 6, and a port.

* four octets between dots, without leading zeros, a colon, and the port;
* eight groups of up to four hexadecimal digits between colons and square brackets, of which one run may be left
  out as two colons and the last two may be written as four octets; a scope may follow after a percent sign; then
  a colon and the port.

`SocketAddress.parse?` reads a whole text; nothing may stand around the address.
-/

namespace Multiples

/-- The host in an address. -/
inductive Host where
  | v4 (octets : List Nat)
  | v6 (groups : List Nat) (scope : Nat)
deriving DecidableEq, Repr

/-- A host and a port on it. -/
structure SocketAddress where
  host : Host
  port : Nat
deriving DecidableEq, Repr

namespace SocketAddress

/-- A decimal number below a bound, any number of leading zeros allowed. -/
def number (bound : Nat) : Reader Nat := do
  let digits ← Reader.run1 Char.isDigit
  match Decimal.natBelow? bound digits with
  | some n => pure n
  | none => failure

/-- The port after a host. -/
def portAfter : Reader Nat := do
  Reader.char ':'
  number 0x10000

/-- The scope after the groups; none means zero. -/
def scope : Reader Nat := (do Reader.char '%'; number 0x100000000) <|> pure 0

/-- An address of version 4. -/
def version4 : Reader SocketAddress := do
  let host ← Octets.reader
  let port ← portAfter
  pure { host := .v4 host, port }

/-- An address of version 6. -/
def version6 : Reader SocketAddress := do
  Reader.char '['
  let host ← Groups.reader
  let scope ← scope
  Reader.char ']'
  let port ← portAfter
  pure { host := .v6 host scope, port }

/-- Whether an address is for every host of this machine. -/
def isForAll (a : SocketAddress) : Bool :=
  match a.host with
  | .v4 octets => octets.all (· == 0)
  | .v6 groups _ => groups.all (· == 0)

/-- Whether it is impossible to listen at two addresses at once.  Port zero stands for any port that is free. -/
def collidesWith (a b : SocketAddress) : Bool :=
  a.port != 0 && a.port == b.port && (a.host == b.host || a.isForAll || b.isForAll)

/-- The address that a text is. -/
def parse? (s : Text) : Option SocketAddress := Reader.whole? (version4 <|> version6) s

end SocketAddress

end Multiples
