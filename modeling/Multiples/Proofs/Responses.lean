import Multiples.Http.Server
import Multiples.Proofs.Answers

/-!
# Responses of the endpoint

A request to the path of the service comes back as a document that its caller can read, whatever its method, its
headers and its body are.  Each way in which handling can end is followed through the layers around the handler:
the one that turns an expired handler into a fault, the one that cuts an answer down to its headers, and the one
that adds the identifier of the request.  The responses are found for every path that the endpoint is on; the main
statement is about the path of the service as it is written, which has to be a literal one for that.

* `Header.values` — the values of all headers of a name;
* `Endpoint.IsReply` — bodies that are read as a result, or as a fault that blames the service;
* `Endpoint.envelope` — what is sent back for a body that was read whole, one that broke or was too large, and one
  that took too long; `Endpoint.readable_process` — sending a document is always answered with success and that;
* `Server.finish_of_known`, `Server.finish_head`, `Server.finish_of_allow` — what the outer layer does to an answer;
* `Server.isReadable_handle` — the responses on every path that the endpoint is on;
* `Server.handle?_at_path` — the responses to every request on the path of the service.
-/

namespace Multiples

namespace Header

/-- The values of all headers of a name, in order. -/
def values (name : Text) (headers : List Header) : List (List UInt8) := (headers.filter (named name)).map value

theorem values_append (name : Text) (a b : List Header) : values name (a ++ b) = values name a ++ values name b := by
  rw [values, List.filter_append, List.map_append]
  rfl

/-- A header of another name has no part in the values. -/
theorem values_singleton_of_not_named {name : Text} {h : Header} (hnot : named name h = false) :
    values name [h] = [] := by
  rw [values, List.filter_cons_of_neg (by rw [hnot]; exact Bool.false_ne_true)]
  rfl

end Header

namespace Endpoint

/-! ### Sending a document -/

/-- Whether a body is read as a result, or as a fault that blames the service. -/
def IsReply (body : Text) : Prop :=
  (∃ numbers, Reply.decode body = .ok (.result numbers)) ∨ ∃ message, Reply.decode body = .ok (.fault Reply.serverCode message)

theorem isReply_refuse (f : Failure) : IsReply (Service.refuse f).body :=
  Or.inr ⟨Service.faultMessage f, Service.decode_refuse f⟩

theorem isReply_answerBytes (bytes : List UInt8) : IsReply (Service.answerBytes bytes).body := by
  rcases Service.answered_or_failed bytes with ⟨doc, r, rfl, hr, hzero⟩ | ⟨f, hf⟩
  · rw [Service.answerBytes_eq_result hr hzero]
    exact Or.inl ⟨_, Reply.decode_encodeResult _⟩
  · rw [Service.answerBytes_eq_refuse hf]
    exact isReply_refuse f

theorem response_ofOutcome (o : Outcome) : (ofOutcome o).response = document 200 o.body := by
  cases o <;> rfl

/-- An answer that does not say that time ran out is left as it is. -/
theorem readableHandled_eq_self {h : Handled} (hstatus : h.response.status ≠ 408) : readableHandled h = h := by
  rw [readableHandled, if_neg hstatus]

theorem readableHandled_expired : (readableHandled expired).response = faultResponse .timeout := rfl

theorem readableHandled_ofOutcome (o : Outcome) : (readableHandled (ofOutcome o)).response = document 200 o.body := by
  have hstatus : (ofOutcome o).response.status ≠ 408 := by
    rw [response_ofOutcome]
    show (200 : Nat) ≠ 408
    omega
  rw [readableHandled_eq_self hstatus, response_ofOutcome]

/-- The document that is sent back when the reading of a body ends. -/
def envelope : Reading → Text
  | .whole bytes => (Service.answerBytes bytes).body
  | .broken reason => (Service.refuse (.body reason)).body
  | .expired => (Service.refuse .timeout).body

theorem isReply_envelope (reading : Reading) : IsReply (envelope reading) := by
  cases reading with
  | whole bytes => exact isReply_answerBytes bytes
  | broken reason => exact isReply_refuse (.body reason)
  | expired => exact isReply_refuse .timeout

/-- **A document that is sent is answered with success**, whatever becomes of its parts. -/
theorem readable_process (maxSize maxSeconds : Nat) (parts : List BodyPart) :
    (readableHandled (process maxSize maxSeconds parts)).response
      = document 200 (envelope (Body.read maxSize maxSeconds parts)) := by
  rw [process]
  cases Body.read maxSize maxSeconds parts with
  | whole bytes => exact readableHandled_ofOutcome _
  | broken reason => exact readableHandled_ofOutcome _
  | expired => exact readableHandled_expired

/-! ### Other methods -/

theorem readable_describe (url method : Text) :
    (readableHandled (describe url method)).response = document 200 (Descriptor.document url) := rfl

theorem readable_reject (method : Text) : (readableHandled (reject method)).response = (reject method).response := rfl

/-- A refused method is named in the fault as it was sent. -/
theorem decode_reject (method : Text) :
    Reply.decode (reject method).response.body
      = .ok (.fault Reply.clientCode ("Method ".toList ++ method ++ " not allowed".toList)) :=
  Reply.decode_encodeFault _ _

end Endpoint

namespace Server

open Endpoint (document xmlType allowHeader)

variable {s : Server} {path method : Text} {r : HttpResponse}

/-! ### The layers around the handler -/

/-- To those who send or ask, an answer goes out as it is. -/
theorem finish_of_known (h : method = Method.get ∨ method = Method.post) : s.finish path method r = r := by
  have hknown : isKnown method = true := by rcases h with rfl | rfl <;> decide
  have hhead : method ≠ Method.head := by rcases h with rfl | rfl <;> decide
  have hconnect : method ≠ Method.connect := by rcases h with rfl | rfl <;> decide
  rw [finish, if_neg hhead, if_neg fun h => hconnect h.1, if_neg fun h => h.2.1 hknown]

/-- Where the endpoint is, one who only asks for the headers gets them, with the length of the body. -/
theorem finish_head (hserved : s.serves path = true) (h : r.status ≠ 404) :
    s.finish path Method.head r
      = { r with
          headers := r.headers ++ [.ofText "content-length" (Decimal.ofNat r.body.byteSize)]
          body := [] } := by
  have hcut : s.isCutDown path = true := by rw [isCutDown, hserved, Bool.true_or]
  rw [finish, if_pos rfl, if_neg]
  intro hcases
  rcases hcases with hstatus | hnot
  · exact h hstatus
  · exact hnot hcut

/-- An answer that names the methods already is not given them again. -/
theorem finish_of_allow (hhead : method ≠ Method.head) (hstatus : r.status ≠ 200)
    (hallow : r.headers.any (Header.named "allow".toList) = true) : s.finish path method r = r := by
  rw [finish, if_neg hhead, if_neg fun h => hstatus h.2, if_neg fun h => h.2.2 hallow]

/-- A request for a path that the endpoint is on reaches it, if there is any time at all. -/
theorem route_served (htime : s.requestSecs ≠ 0) (hserved : s.serves path = true) (q : HttpRequest) :
    s.route path q = s.atEndpoint q := by
  rw [route, if_neg htime, if_pos hserved]

theorem atEndpoint_post {q : HttpRequest} (hmethod : q.method = Method.post) :
    s.atEndpoint q = Endpoint.process s.maxBodySize s.requestSecs q.body := by
  rw [atEndpoint, hmethod, if_neg (by decide), if_pos rfl]

/-- The response to a request on such a path, by way of what the endpoint makes of it. -/
theorem handle_served (htime : s.requestSecs ≠ 0) (hserved : s.serves path = true) (fresh : Text) (q : HttpRequest) :
    (s.handle fresh path q).response = identified (RequestId.assigned fresh q.headers)
      (s.finish path q.method (Endpoint.readableHandled (s.atEndpoint q)).response) := by
  rw [handle, route_served htime hserved]

/-- The identifier is one more header, and nothing else. -/
theorem values_identified {name : Text} {id : List UInt8}
    (hname : Header.named name { name := RequestId.headerName, value := id } = false) :
    Header.values name (identified id r).headers = Header.values name r.headers := by
  rw [identified, Header.values_append, Header.values_singleton_of_not_named hname, List.append_nil]

/-! ### The response to each method -/

section Served

variable (htime : s.requestSecs ≠ 0) (hserved : s.serves path = true) (fresh : Text) {q : HttpRequest}
include htime hserved

theorem response_get (hmethod : q.method = Method.get) :
    (s.handle fresh path q).response
      = identified (RequestId.assigned fresh q.headers) (document 200 (Descriptor.document s.publicUrl)) := by
  have hpoint : s.atEndpoint q = Endpoint.describe s.publicUrl q.method := if_pos (Or.inl hmethod)
  rw [handle_served htime hserved, hpoint, Endpoint.readable_describe, finish_of_known (Or.inl hmethod)]

theorem response_head (hmethod : q.method = Method.head) :
    (s.handle fresh path q).response
      = identified (RequestId.assigned fresh q.headers)
          { document 200 (Descriptor.document s.publicUrl) with
            headers := [xmlType,
              .ofText "content-length" (Decimal.ofNat (Descriptor.document s.publicUrl).byteSize)]
            body := [] } := by
  have hpoint : s.atEndpoint q = Endpoint.describe s.publicUrl q.method := if_pos (Or.inr hmethod)
  have hstatus : (document 200 (Descriptor.document s.publicUrl)).status ≠ 404 := by
    show (200 : Nat) ≠ 404
    omega
  rw [handle_served htime hserved, hpoint, Endpoint.readable_describe, hmethod, finish_head hserved hstatus]
  rfl

theorem response_post (hmethod : q.method = Method.post) :
    (s.handle fresh path q).response = identified (RequestId.assigned fresh q.headers)
      (document 200 (Endpoint.envelope (Body.read s.maxBodySize s.requestSecs q.body))) := by
  rw [handle_served htime hserved, atEndpoint_post hmethod, Endpoint.readable_process,
    finish_of_known (Or.inr hmethod)]

theorem response_other (hget : q.method ≠ Method.get) (hhead : q.method ≠ Method.head) (hpost : q.method ≠ Method.post) :
    (s.handle fresh path q).response
      = identified (RequestId.assigned fresh q.headers) (Endpoint.reject q.method).response := by
  have hpoint : s.atEndpoint q = Endpoint.reject q.method := by
    rw [atEndpoint, if_neg (not_or.2 ⟨hget, hhead⟩), if_neg hpost]
  have hstatus : (Endpoint.reject q.method).response.status ≠ 200 := by
    show (405 : Nat) ≠ 200
    omega
  have hallow : (Endpoint.reject q.method).response.headers.any (Header.named "allow".toList) = true := rfl
  rw [handle_served htime hserved, hpoint, Endpoint.readable_reject, finish_of_allow hhead hstatus hallow]

end Served

/-! ### Other paths -/

section Elsewhere

variable (hunserved : ¬ s.serves path = true)
include hunserved

theorem finish_of_missing : s.finish path method { status := 404 } = { status := 404 } := by
  by_cases hhead : method = Method.head
  · rw [finish, if_pos hhead, if_pos (Or.inl rfl)]
  · rw [finish, if_neg hhead, if_neg (by simp), if_neg fun h => hunserved h.1]

/-- Where the endpoint is not, nothing is found and nothing is left behind. -/
theorem handle_elsewhere (htime : s.requestSecs ≠ 0) (fresh : Text) (q : HttpRequest) :
    s.handle fresh path q = { response := identified (RequestId.assigned fresh q.headers) { status := 404 } } := by
  have hroute : s.route path q = { response := { status := 404 } } := by
    rw [route, if_neg htime, if_neg hunserved]
  have hread : Endpoint.readableHandled { response := { status := 404 } } = { response := { status := 404 } } := rfl
  rw [handle, hroute, hread]
  simp only [finish_of_missing hunserved]

end Elsewhere

/-! ### Main statement -/

/-- The server that a configuration describes. -/
def configured (c : Config) : Server where
  path := c.service.path
  publicUrl := c.service.publicUrl
  maxBodySize := c.listener.maxBodySize.toNat
  requestSecs := c.timeouts.requestSecs.toNat

theorem ofConfig?_eq_some {c : Config} (h : isRoutable c.service.path = true) : ofConfig? c = some (configured c) := by
  rw [ofConfig?, if_pos h]
  rfl

theorem requestSecs_configured_ne_zero {c : Config} (h : 0 < c.timeouts.requestSecs) :
    (configured c).requestSecs ≠ 0 := by
  have hlt : (0 : UInt64).toNat < c.timeouts.requestSecs.toNat := UInt64.lt_iff_toNat_lt.1 h
  exact Nat.ne_of_gt hlt

theorem handle?_eq_some {fresh path : Text} {q : HttpRequest} (hmethod : Method.isToken q.method = true)
    (hheaders : q.headers.all Header.isValid = true) (htarget : Target.path? q.target = some path) :
    s.handle? fresh q = some (s.handle fresh path q) := by
  rw [handle?, if_pos ⟨hmethod, hheaders⟩, htarget, Option.map_some]

/-- What the response to a method is on the path of a service: a document of the type of all documents.  Those who
ask get the descriptor, or its length if they only ask for the headers; those who send get success and a result or
a fault that blames the service; all others get a refusal with the methods there are, and a fault that blames the
caller and names the method as it was sent. -/
structure IsReadable (publicUrl method : Text) (response : HttpResponse) : Prop where
  contentType : Header.values "content-type".toList response.headers = [Utf8.encode "text/xml".toList]
  get : method = "GET".toList → response.status = 200 ∧ response.body = Descriptor.document publicUrl
  head : method = "HEAD".toList → response.status = 200 ∧ response.body = []
    ∧ Header.values "content-length".toList response.headers
      = [Utf8.encode (Decimal.ofNat (Descriptor.document publicUrl).byteSize)]
  post : method = "POST".toList → response.status = 200
    ∧ ((∃ numbers, Reply.decode response.body = .ok (.result numbers))
      ∨ ∃ message, Reply.decode response.body = .ok (.fault "soap:Server".toList message))
  other : method ≠ "GET".toList → method ≠ "HEAD".toList → method ≠ "POST".toList → response.status = 405
    ∧ Header.values "allow".toList response.headers = [Utf8.encode "GET, HEAD, POST".toList]
    ∧ Reply.decode response.body
      = .ok (.fault "soap:Client".toList ("Method ".toList ++ method ++ " not allowed".toList))

/-- Where the endpoint is, the response is readable, whatever the method is. -/
theorem isReadable_handle (htime : s.requestSecs ≠ 0) (hserved : s.serves path = true) (fresh : Text) (q : HttpRequest) :
    IsReadable s.publicUrl q.method (s.handle fresh path q).response := by
  by_cases hget : q.method = Method.get
  · rw [response_get htime hserved fresh hget, hget]
    exact
      { contentType := values_identified rfl
        get := fun _ => ⟨rfl, rfl⟩
        head := fun h => absurd h (by decide)
        post := fun h => absurd h (by decide)
        other := fun h => absurd rfl h }
  by_cases hhead : q.method = Method.head
  · rw [response_head htime hserved fresh hhead, hhead]
    exact
      { contentType := values_identified rfl
        get := fun h => absurd h (by decide)
        head := fun _ => ⟨rfl, rfl, values_identified rfl⟩
        post := fun h => absurd h (by decide)
        other := fun _ h => absurd rfl h }
  by_cases hpost : q.method = Method.post
  · rw [response_post htime hserved fresh hpost, hpost]
    exact
      { contentType := values_identified rfl
        get := fun h => absurd h (by decide)
        head := fun h => absurd h (by decide)
        post := fun _ => ⟨rfl, Endpoint.isReply_envelope _⟩
        other := fun _ _ h => absurd rfl h }
  · rw [response_other htime hserved fresh hget hhead hpost]
    exact
      { contentType := values_identified rfl
        get := fun h => absurd h hget
        head := fun h => absurd h hhead
        post := fun h => absurd h hpost
        other := fun _ _ _ => ⟨rfl, values_identified rfl, Endpoint.decode_reject q.method⟩ }

/-- **Every request on the path gets a document that its caller can read.**  The server of any configuration with a
literal path that can be routed and some time for a request handles every valid request on that path, whatever its
method, its headers and the parts of its body are. -/
theorem handle?_at_path (c : Config) (fresh : Text) (q : HttpRequest) (hroutable : isRoutable c.service.path = true)
    (hliteral : PathPattern.isLiteral c.service.path = true) (htime : 0 < c.timeouts.requestSecs)
    (hmethod : Method.isToken q.method = true)
    (hheaders : q.headers.all Header.isValid = true) (htarget : Target.path? q.target = some c.service.path) :
    ∃ s h, ofConfig? c = some s ∧ s.handle? fresh q = some h
      ∧ IsReadable c.service.publicUrl q.method h.response := by
  have hsecs := requestSecs_configured_ne_zero htime
  have hserved : (configured c).serves c.service.path = true := serves_path hliteral
  refine ⟨configured c, _, ofConfig?_eq_some hroutable, handle?_eq_some hmethod hheaders htarget, ?_⟩
  exact isReadable_handle hsecs hserved fresh q

/-- A refused method whose name looks like an entity, with a body that would never end. -/
def oddRequest : HttpRequest where
  method := "&'lt".toList
  target := "http://localhost/factorservice?wsdl".toList
  headers := [{ name := "X-Request-Id".toList, value := [0x22, 0xff] }]
  body := [.chunk [0xff], .pause 10, .stall]

/-- It is refused by its name. -/
theorem handle?_oddRequest :
    ∃ s h, ofConfig? {} = some s ∧ s.handle? [] oddRequest = some h ∧ h.response.status = 405
      ∧ Reply.decode h.response.body
        = .ok (.fault "soap:Client".toList "Method &'lt not allowed".toList) := by
  obtain ⟨s, h, hs, hh, hreadable⟩ :=
    handle?_at_path {} [] oddRequest (by decide) (by decide) (by decide) (by decide) (by decide) (by decide)
  obtain ⟨hstatus, -, hbody⟩ := hreadable.other (by decide) (by decide) (by decide)
  exact ⟨s, h, hs, hh, hstatus, hbody⟩

end Server

end Multiples
