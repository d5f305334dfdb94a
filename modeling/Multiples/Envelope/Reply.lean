import Multiples.Envelope.Request

/-!
# Replies

A reply is a list of integers or a fault.

* `Reply.encode` writes it as an envelope;
* `Reply.decode` reads any text: a fault counts before a result, and a document with neither is an error.
-/

namespace Multiples

/-- The answer to a request. -/
inductive Reply where
  | result (numbers : List Int64)
  | fault (code message : Text)
deriving DecidableEq, Repr

namespace Reply

open Markup (Element)

/-- The name of the field with the result. -/
def resultTag : Text := "result".toList

/-- The name of the field with the code of a fault. -/
def faultCodeTag : Text := "faultcode".toList

/-- The name of the field with the message of a fault. -/
def faultMessageTag : Text := "faultstring".toList

/-- The code of a fault that the service is to blame for. -/
def serverCode : Text := "soap:Server".toList

/-- The code of a fault that the caller is to blame for. -/
def clientCode : Text := "soap:Client".toList

/-- A result as an envelope. -/
def encodeResult (numbers : List Int64) : Text :=
  let response : Element := { name := "findFactorsResponse".toList }
  Envelope.document (response.child (.leaf resultTag (Envelope.joined [',', ' '] numbers)))

/-- A fault as an envelope. -/
def encodeFault (code message : Text) : Text :=
  let fault : Element := { name := "soap:Fault".toList }
  Envelope.document ((fault.child (.leaf faultCodeTag code)).child (.leaf faultMessageTag message))

/-- A reply as an envelope. -/
def encode : Reply → Text
  | .result numbers => encodeResult numbers
  | .fault code message => encodeFault code message

/-- The reply in a document. -/
def decode (doc : Text) : Except DecodeError Reply :=
  if Envelope.hasTag doc faultMessageTag then
    .ok (.fault ((Envelope.textField? doc faultCodeTag).getD [])
      ((Envelope.textField? doc faultMessageTag).getD []))
  else if Envelope.hasTag doc resultTag then
    (Envelope.intListField doc resultTag []).map .result
  else .error .missingResult

end Reply

end Multiples
