import Multiples.Envelope.Field

/-!
# Requests

A request asks for the multiples of a divisor in a list of integers.

* `Request.encode` writes it as an envelope;
* `Request.decode` reads any text: numbers that are absent are none, and a divisor that is absent is one.
-/

namespace Multiples

namespace Envelope

/-- The name space of envelopes. -/
def nameSpace : Text := "http://schemas.xmlsoap.org/soap/envelope/".toList

/-- The one operation of the service. -/
def operation : Text := "findFactors".toList

/-- A document that holds an element as the body of an envelope. -/
def document (body : Markup.Element) : Text :=
  let wrapped : Markup.Element := { name := "soap:Body".toList }
  let envelope : Markup.Element := { name := "soap:Envelope".toList }
  ((envelope.attr "xmlns:soap".toList nameSpace).child (wrapped.child body)).document

/-- Integers in order, with a text between every two of them. -/
def joined (sep : Text) (numbers : List Int64) : Text := Text.glue sep (numbers.map Decimal.ofInt64)

end Envelope

/-- A list of integers and the divisor to try on them. -/
structure Request where
  numbers : List Int64
  divisor : Int64
deriving DecidableEq, Repr

namespace Request

open Markup (Element)

/-- The name of the field with the numbers. -/
def numbersTag : Text := "numbers".toList

/-- The name of the field with the divisor. -/
def divisorTag : Text := "divisor".toList

/-- A request as an envelope. -/
def encode (r : Request) : Text :=
  let call : Element := { name := Envelope.operation }
  Envelope.document ((call.child (.leaf numbersTag (Envelope.joined [','] r.numbers))).child
    (.leaf divisorTag (Decimal.ofInt64 r.divisor)))

/-- The request in a document. -/
def decode (doc : Text) : Except DecodeError Request := do
  let numbers ← Envelope.intListField doc numbersTag []
  let divisor ← Envelope.intField doc divisorTag 1
  pure { numbers, divisor }

end Request

end Multiples
