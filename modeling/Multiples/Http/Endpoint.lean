import Multiples.Http.Body
import Multiples.Log.Record
import Multiples.Metrics
import Multiples.Service

/-!
# The endpoint

What is answered on the path of the service: the descriptor to those who ask for it, a result or a fault to those who
send a document, and a refusal to all others.  Whatever happens to a document, the answer has the status of success
and a body that can be read as a reply.
-/

namespace Multiples

/-- A response, with what handling the request leaves behind. -/
structure Handled where
  response : HttpResponse
  call : Option Call := none
  records : List Log.Record := []
deriving DecidableEq, Repr

namespace Endpoint

/-- The type of every document that the service sends. -/
def xmlType : Header := .ofText "content-type" "text/xml".toList

/-- A document as a response. -/
def document (status : Nat) (body : Text) : HttpResponse := { status, headers := [xmlType], body }

/-- The stretch of work in which a request is handled. -/
def requestSpan : Log.Span :=
  { name := "request".toList
    target := "factor_service::http::server".toList
    names := ["method".toList, "uri".toList, "request_id".toList] }

/-- A warning of the endpoint. -/
def warning (message : String) (fields : List (Text × Log.Datum)) : Log.Record :=
  { level := .warn
    target := "factor_service::http::handler".toList
    message := message.toList
    fields
    span := some requestSpan }

/-! ### Asking for the descriptor -/

/-- The descriptor. -/
def describe (publicUrl method : Text) : Handled :=
  { response := document 200 (Descriptor.document publicUrl), call := some { method, outcome := .descriptor } }

/-! ### Sending a document -/

/-- The response to a document, once it is known what becomes of it. -/
def ofOutcome : Outcome → Handled
  | .result body =>
    { response := document 200 body, call := some { method := Method.post, outcome := .result } }
  | .fault body message =>
    { response := document 200 body
      call := some { method := Method.post, outcome := .fault }
      records := [warning "Request answered with fault" [("fault".toList, .text message)]] }

/-- The response of a handler that took too long; `readable` gives it the form that callers see. -/
def expired : Handled := { response := { status := 408 } }

/-- The answer to a document that is being sent. -/
def process (maxSize maxSeconds : Nat) (body : List BodyPart) : Handled :=
  match Body.read maxSize maxSeconds body with
  | .whole bytes => ofOutcome (Service.answerBytes bytes)
  | .broken reason => ofOutcome (Service.refuse (.body reason))
  | .expired => expired

/-! ### Other methods -/

/-- The header with the methods of the endpoint. -/
def allowHeader (methods : String) : Header := .ofText "allow" methods.toList

/-- The refusal of a method. -/
def reject (method : Text) : Handled :=
  let body := Reply.encodeFault Reply.clientCode ("Method ".toList ++ method ++ " not allowed".toList)
  { response := { status := 405, headers := [allowHeader "GET, HEAD, POST", xmlType], body }
    call := some { method, outcome := .rejected }
    records := [warning "Method not allowed" [("method".toList, .text method)]] }

/-! ### Failures around the endpoint -/

/-- The fault for a failure as a response. -/
def faultResponse (f : Failure) : HttpResponse := document 200 (Service.refuse f).body

/-- A response as callers see it: one that says that time ran out becomes a fault, all others stay. -/
def readable (r : HttpResponse) : HttpResponse := if r.status = 408 then faultResponse .timeout else r

/-- The same for all that handling a request leaves behind. -/
def readableHandled (h : Handled) : Handled :=
  if h.response.status = 408 then
    { h with response := readable h.response, records := h.records ++ [warning "Request timed out" []] }
  else h

/-- The response where a handler broke down. -/
def brokenDown : HttpResponse := faultResponse .internal

end Endpoint

end Multiples
