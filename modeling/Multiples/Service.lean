import Multiples.Filter
import Multiples.Envelope.Reply
import Multiples.Envelope.Descriptor
import Multiples.Text.Utf8

/-!
# The service

What the service answers, whatever carries the request.

* `Failure` says what can go wrong, and `Failure.message` how it is told;
* `Service.answer` answers a text and `Service.answerBytes` answers bytes: a result, or a fault whose code blames
  the service.
-/

namespace Multiples

/-- Why a request is answered with a fault. -/
inductive Failure where
  | decode (e : DecodeError)
  | filter (e : FilterError)
  | body (reason : Text)
  | notUtf8
  | timeout
  | internal
deriving DecidableEq, Repr

/-- The wording of a failure. -/
def Failure.message : Failure → Text
  | .decode e => e.message
  | .filter e => e.message
  | .body reason => "request body could not be read: ".toList ++ reason
  | .notUtf8 => "request body is not valid UTF-8".toList
  | .timeout => "request timed out".toList
  | .internal => "internal error".toList

/-- An envelope to send back, with what a log tells of a fault. -/
inductive Outcome where
  | result (body : Text)
  | fault (body message : Text)
deriving DecidableEq, Repr

namespace Outcome

/-- The envelope of an outcome. -/
def body : Outcome → Text
  | .result body => body
  | .fault body _ => body

/-- Whether an outcome is a fault. -/
def isFault : Outcome → Bool
  | .result _ => false
  | .fault _ _ => true

end Outcome

namespace Service

/-- The multiples that a document asks for. -/
def multiplesIn (doc : Text) : Except Failure (List Int64) := do
  let request ← (Request.decode doc).mapError .decode
  (multiplesOf request.divisor request.numbers).mapError .filter

/-- The message of the fault for a failure. -/
def faultMessage (f : Failure) : Text := "Error processing request: ".toList ++ f.message

/-- The fault for a failure. -/
def refuse (f : Failure) : Outcome :=
  .fault (Reply.encodeFault Reply.serverCode (faultMessage f)) (faultMessage f)

/-- The answer to a document. -/
def answer (doc : Text) : Outcome :=
  match multiplesIn doc with
  | .ok numbers => .result (Reply.encodeResult numbers)
  | .error f => refuse f

/-- The answer to the bytes of a document. -/
def answerBytes (bytes : List UInt8) : Outcome :=
  match Utf8.decode? bytes with
  | some doc => answer doc
  | none => refuse .notUtf8

end Service

end Multiples
