import Multiples.Envelope.Reply
import Multiples.Http.Target
import Multiples.Http.Wire
import Multiples.Net.Url.Read
import Multiples.Text.ByteOrder

/-!
# The client

Asks a service for multiples, for its descriptor, or for the answer to any document.

* `Client.find`, `Client.send` and `Client.describe` are the dialogs;
* `Client.textOf` and `Client.numbersOf` read what arrives.  A reply counts only if it is complete and its status
  says success; then a fault comes before a result.
-/

namespace Multiples

/-- Why no complete reply has arrived. -/
inductive TransportError where
  | notAnAddress
  | cannotAsk (url : Url)
  | noReply (url : Url)
  | cutOff
deriving DecidableEq, Repr

/-- The wording of a transport error. -/
def TransportError.message : TransportError → Text
  | .notAnAddress => "builder error".toList
  | .cannotAsk url => "builder error for url (".toList ++ url.text ++ [')']
  | .noReply url => "error sending request for url (".toList ++ url.text ++ [')']
  | .cutOff => "error decoding response body".toList

/-- Why a call has no result. -/
inductive ClientError where
  | transport (e : TransportError)
  | status (code : Nat) (body : Text)
  | fault (code message : Text)
  | decode (e : DecodeError)
deriving DecidableEq, Repr

/-- The wording of a client error. -/
def ClientError.message : ClientError → Text
  | .transport e => "HTTP error: ".toList ++ e.message
  | .status code body => "service returned status ".toList ++ Decimal.ofNat code ++ ": ".toList ++ body
  | .fault code message => "service fault ".toList ++ code ++ ": ".toList ++ message
  | .decode e => "could not decode response: ".toList ++ e.message

namespace Client

/-! ### Requests -/

/-- A request that sends a document. -/
def postRequest (url : Url) (doc : Text) : HttpRequest :=
  { method := "POST".toList
    target := url.target
    headers := [.ofText "content-type" "text/xml; charset=utf-8".toList, .ofText "soapaction" Envelope.operation]
    body := [.chunk (Utf8.encode doc)] }

/-- A request for the descriptor. -/
def getRequest (url : Url) : HttpRequest := { target := url.target }

/-! ### What arrives -/

/-- What arrives after all replies that only say that another one follows. -/
def lastArrival : Arrival → Arrival
  | .nothing => .nothing
  | .reply status bytes missing =>
    if ¬ Status.isValid status then .nothing
    else if Status.isInterim status then Wire.arrival bytes
    else .reply status bytes missing

/-- The status and the body of a complete reply. -/
def complete (url : Url) (arrival : Arrival) : Except ClientError (Nat × List UInt8) :=
  match lastArrival arrival with
  | .nothing => .error (.transport (.noReply url))
  | .reply status bytes missing =>
    if Status.isBodiless status then .ok (status, [])
    else if missing = 0 then .ok (status, bytes)
    else .error (.transport .cutOff)

/-- The text of a reply. -/
def textOf (url : Url) (arrival : Arrival) : Except ClientError Text := do
  let (status, bytes) ← complete url arrival
  if Status.isSuccess status then pure (ByteOrder.decode bytes)
  else throw (.status status (ByteOrder.decode bytes))

/-- The integers in a reply. -/
def numbersOf (url : Url) (arrival : Arrival) : Except ClientError (List Int64) := do
  let doc ← textOf url arrival
  match Reply.decode doc with
  | .ok (.result numbers) => pure numbers
  | .ok (.fault code message) => throw (.fault code message)
  | .error e => throw (.decode e)

/-! ### Dialogs -/

/-- Whether a request can be sent to an address: its scheme is spoken, and it is valid as the target of a request. -/
def canAsk (url : Url) : Bool := url.scheme.isSpoken && (Target.path? url.text).isSome

/-- Asks once at an address, if the text is one. -/
def once {α : Type} (endpoint : Text) (request : Url → HttpRequest) (read : Url → Arrival → Except ClientError α) :
    Dialog (Except ClientError α) :=
  match (Url.parse? endpoint).map Url.anonymous with
  | some url =>
    if canAsk url then .ask url (request url) fun arrival => .done (read url arrival)
    else .done (.error (.transport (.cannotAsk url)))
  | none => .done (.error (.transport .notAnAddress))

/-- Asks for the multiples of a divisor in a list. -/
def find (endpoint : Text) (r : Request) : Dialog (Except ClientError (List Int64)) :=
  once endpoint (fun url => postRequest url r.encode) numbersOf

/-- Asks for the answer to a document. -/
def send (endpoint doc : Text) : Dialog (Except ClientError Text) :=
  once endpoint (fun url => postRequest url doc) textOf

/-- Asks for the descriptor. -/
def describe (endpoint : Text) : Dialog (Except ClientError Text) := once endpoint getRequest textOf

/-! ### Small lemmas -/

/-- Against any server, a caller who asks once reads what the server answers. -/
theorem through_once {α σ : Type} {answer : σ → Url → HttpRequest → Arrival × σ} {s : σ} {endpoint : Text} {url : Url}
    {request : Url → HttpRequest} {read : Url → Arrival → Except ClientError α}
    (hread : (Url.parse? endpoint).map Url.anonymous = some url) (hasked : canAsk url = true) :
    (Dialog.through answer s (once endpoint request read)).1 = read url (answer s url (request url)).1 := by
  rw [once, hread]
  simp only [hasked, if_true]
  rw [Dialog.through, Dialog.through]

end Client

end Multiples
