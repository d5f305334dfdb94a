import Multiples.Text.Utf8

/-!
# Requests and responses

* `HttpRequest` is a request as it arrives, its body a sequence of parts over time;
* `HttpResponse` is a response, and `Status` says what its number means;
* `Header.first?` looks a header up, the letter case of its name aside.
-/

namespace Multiples

/-- A header: its name, and its value as bytes. -/
structure Header where
  name : Text
  value : List UInt8
deriving DecidableEq, Repr

namespace Method

/-- The characters of a method. -/
def isTokenChar (c : Char) : Bool := c.isAlphanum || c ∈ "!#$%&'*+-.^_\x60|~".toList

/-- Whether a text can be a method. -/
def isToken (method : Text) : Bool := !method.isEmpty && method.all isTokenChar

/-- Asks for the descriptor. -/
def get : Text := "GET".toList

/-- Asks for the descriptor without its body. -/
def head : Text := "HEAD".toList

/-- Sends a document to be answered. -/
def post : Text := "POST".toList

/-- Asks for a tunnel. -/
def connect : Text := "CONNECT".toList

end Method

namespace Header

/-- Whether a byte can stand in the value of a header: it is no control character but the tab. -/
def isValueByte (b : UInt8) : Bool := b = 0x09 || (decide (0x20 ≤ b) && b != 0x7f)

/-- Whether a header is valid; its name is a token as a method is. -/
def isValid (h : Header) : Bool := Method.isToken h.name && h.value.all isValueByte

/-- A header whose value is a text. -/
def ofText (name : String) (value : Text) : Header := { name := name.toList, value := Utf8.encode value }

/-- A name in small letters. -/
def small (name : Text) : Text := name.map Char.toLower

/-- Whether a header has a name, letter case aside. -/
def named (name : Text) (h : Header) : Bool := small h.name == small name

/-- The value of the first header of a name. -/
def first? (name : Text) (headers : List Header) : Option (List UInt8) :=
  (headers.find? (named name)).map Header.value

end Header

/-- One part of a body that is being sent. -/
inductive BodyPart where
  | chunk (bytes : List UInt8)
  | pause (milliseconds : Nat)
  | stall
  | failure (reason : Text)
deriving DecidableEq, Repr

/-- A request. -/
structure HttpRequest where
  method : Text := "GET".toList
  target : Text
  headers : List Header := []
  body : List BodyPart := []
deriving DecidableEq, Repr

/-- A response. -/
structure HttpResponse where
  status : Nat
  headers : List Header := []
  body : Text := []
deriving DecidableEq, Repr

namespace Status

/-- Whether a number can be a status at all. -/
def isValid (status : Nat) : Bool := decide (100 ≤ status) && decide (status ≤ 999)

/-- Whether a status only says that another reply follows; the one that agrees to another protocol is the last. -/
def isInterim (status : Nat) : Bool := decide (status < 200) && status != 101

/-- Whether a status says that there is no body. -/
def isBodiless (status : Nat) : Bool := status = 101 || status = 204 || status = 304

/-- Whether a status says success. -/
def isSuccess (status : Nat) : Bool := decide (200 ≤ status) && decide (status < 300)

end Status

end Multiples
