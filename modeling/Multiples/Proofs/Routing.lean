import Multiples.Proofs.Responses
import Multiples.Proofs.Targets

/-!
# Routing by the path alone

Which answer a request gets depends on its path and on nothing else of its target: the endpoint is there or it is not.
If the path of the service is a literal one, the endpoint is on this path, character for character, and on no other.

* `HttpRequest.For` — the valid requests for a path; `Server.handled_iff` — these are the requests that are handled;
* `Server.onPath` — what the endpoint answers; `Server.response_eq` — **the response is that answer where the endpoint is,
  and that nothing was found on any other path**;
* `Server.alike_of_bare` — what follows the path has no part in the answer;
* `Server.routed_by_path` — all of this for every configuration with a literal path, and what only the headers of the
  descriptor are.
-/

namespace Multiples

open Endpoint (document xmlType)

/-- A valid request for a path: its method is a token, its headers are valid, and its target is not too long and of a
form that asks for the path. -/
structure HttpRequest.For (q : HttpRequest) (path : Text) : Prop where
  method : Method.isToken q.method = true
  headers : q.headers.all Header.isValid = true
  size : q.target.byteSize ≤ 65534
  target : Target.Asks q.target path

theorem HttpRequest.for_of_path? {q : HttpRequest} {path : Text} (hmethod : Method.isToken q.method = true)
    (hheaders : q.headers.all Header.isValid = true) (hpath : Target.path? q.target = some path) : q.For path := by
  obtain ⟨hsize, htarget⟩ := Target.path?_eq_some_iff.1 hpath
  exact ⟨hmethod, hheaders, hsize, htarget⟩

theorem HttpRequest.For.path? {q : HttpRequest} {path : Text} (h : q.For path) : Target.path? q.target = some path :=
  Target.path?_eq_some_iff.2 ⟨h.size, h.target⟩

namespace Server

variable {s : Server} {q q' : HttpRequest} {path path' fresh : Text}

/-! ### Requests that are handled -/

theorem handle?_of_for (h : q.For path) : s.handle? fresh q = some (s.handle fresh path q) :=
  handle?_eq_some h.method h.headers h.path?

theorem handled_iff : (∃ h, s.handle? fresh q = some h) ↔ ∃ path, q.For path := by
  constructor
  · intro hgiven
    obtain ⟨h, hh⟩ := hgiven
    rw [handle?, Option.ite_none_right_eq_some] at hh
    obtain ⟨⟨hmethod, hheaders⟩, hpath⟩ := hh
    obtain ⟨path, hfound, -⟩ := Option.map_eq_some_iff.1 hpath
    exact ⟨path, HttpRequest.for_of_path? hmethod hheaders hfound⟩
  · intro hgiven
    obtain ⟨path, hfor⟩ := hgiven
    exact ⟨_, handle?_of_for hfor⟩

/-! ### Answers -/

/-- What the endpoint answers to a request, before it is given an identifier: the descriptor, its headers with its
length, a reply, or a refusal. -/
def onPath (s : Server) (q : HttpRequest) : HttpResponse :=
  if q.method = Method.get then document 200 (Descriptor.document s.publicUrl)
  else if q.method = Method.head then
    { status := 200
      headers := [xmlType, .ofText "content-length" (Decimal.ofNat (Descriptor.document s.publicUrl).byteSize)] }
  else if q.method = Method.post then document 200 (Endpoint.envelope (Body.read s.maxBodySize s.requestSecs q.body))
  else (Endpoint.reject q.method).response

/-- What is answered to a request for a path: what the endpoint says where it is, and that nothing was found on any other
path. -/
def answered (s : Server) (path : Text) (q : HttpRequest) : HttpResponse :=
  if s.serves path then s.onPath q else { status := 404 }

theorem response_onPath (htime : s.requestSecs ≠ 0) (hserved : s.serves path = true) :
    (s.handle fresh path q).response = identified (RequestId.assigned fresh q.headers) (s.onPath q) := by
  by_cases hget : q.method = Method.get
  · rw [response_get htime hserved fresh hget, onPath, if_pos hget]
  by_cases hhead : q.method = Method.head
  · rw [response_head htime hserved fresh hhead, onPath, if_neg hget, if_pos hhead]
    rfl
  by_cases hpost : q.method = Method.post
  · rw [response_post htime hserved fresh hpost, onPath, if_neg hget, if_neg hhead, if_pos hpost]
  · rw [response_other htime hserved fresh hget hhead hpost, onPath, if_neg hget, if_neg hhead, if_neg hpost]

/-- **The path decides which answer it is**, and the identifier is added to either. -/
theorem response_eq (htime : s.requestSecs ≠ 0) :
    (s.handle fresh path q).response = identified (RequestId.assigned fresh q.headers) (s.answered path q) := by
  by_cases hserved : s.serves path = true
  · rw [response_onPath htime hserved, answered, if_pos hserved]
  · rw [handle_elsewhere hserved htime, answered, if_neg hserved]

/-- What is answered depends on the method and the body, besides the path. -/
theorem answered_congr (hmethod : q'.method = q.method) (hbody : q'.body = q.body) :
    s.answered path q' = s.answered path q := by
  simp only [answered, onPath, hmethod, hbody]

/-- Only to ask for the headers gives those of the descriptor, with the number of bytes that it takes. -/
theorem onPath_head (hhead : q.method = Method.head) (hget : q'.method = Method.get) :
    (s.onPath q).status = (s.onPath q').status ∧ (s.onPath q).body = []
      ∧ (s.onPath q).headers = (s.onPath q').headers
        ++ [.ofText "content-length" (Decimal.ofNat (Utf8.encode (s.onPath q').body).length)] := by
  have hne : q.method ≠ Method.get := by
    rw [hhead]
    decide
  have hbare : s.onPath q
      = { status := 200
          headers := [xmlType, .ofText "content-length" (Decimal.ofNat (Descriptor.document s.publicUrl).byteSize)] } := by
    rw [onPath, if_neg hne, if_pos hhead]
  have hfull : s.onPath q' = document 200 (Descriptor.document s.publicUrl) := by
    rw [onPath, if_pos hget]
  rw [hbare, hfull, Utf8.length_encode]
  exact ⟨rfl, rfl, rfl⟩

/-! ### Requests that differ behind the path -/

/-- Whether two requests differ in nothing but what follows the path of their targets. -/
structure DifferBehind (q q' : HttpRequest) : Prop where
  method : q'.method = q.method
  headers : q'.headers = q.headers
  body : q'.body = q.body
  target : Target.bare q'.target = Target.bare q.target

/-- Both are requests for one path. -/
theorem DifferBehind.path_eq (h : DifferBehind q q') (hq : q.For path) (hq' : q'.For path') : path' = path := by
  have hbare := Target.path?_bare hq'.path?
  rw [h.target, Target.path?_bare hq.path?] at hbare
  exact (Option.some.inj hbare).symm

/-! ### Main statement -/

/-- The response to a request, if it is a valid one. -/
def responseTo? (s : Server) (fresh : Text) (q : HttpRequest) : Option HttpResponse :=
  (s.handle? fresh q).map Handled.response

theorem responseTo?_eq (htime : s.requestSecs ≠ 0) (hq : q.For path) :
    s.responseTo? fresh q = some (identified (RequestId.assigned fresh q.headers) (s.answered path q)) := by
  rw [responseTo?, handle?_of_for hq, Option.map_some, response_eq htime]

/-- What it means that a server routes by one path alone: the valid requests for some path are those that get a
response; on the path it is the answer of the endpoint, on any other path nothing is found, and an identifier is added
to either; what follows the path of a target makes no difference; and those who ask only for the headers of the
descriptor get the same as those who ask for all of it, with the length of the body in its place. -/
structure RoutesBy (s : Server) (here : Text) : Prop where
  handled : ∀ fresh q, (s.responseTo? fresh q).isSome = true ↔ ∃ path, q.For path
  found : ∀ fresh q, q.For here →
    s.responseTo? fresh q = some (identified (RequestId.assigned fresh q.headers) (s.onPath q))
  missing : ∀ fresh q path, q.For path → path ≠ here →
    s.responseTo? fresh q
      = some (identified (RequestId.assigned fresh q.headers) { status := 404, headers := [], body := [] })
  behind : ∀ q q' path path', q.For path → q'.For path' → DifferBehind q q' → ∃ base : HttpResponse, ∀ fresh,
    s.responseTo? fresh q = some (identified (RequestId.assigned fresh q.headers) base)
    ∧ s.responseTo? fresh q' = some (identified (RequestId.assigned fresh q.headers) base)
  head : ∀ fresh q q', q.For here → q'.For here → q.method = "HEAD".toList → q'.method = "GET".toList →
    q.headers = q'.headers → ∃ r r', s.responseTo? fresh q = some r ∧ s.responseTo? fresh q' = some r'
      ∧ r.status = r'.status ∧ r.body = []
      ∧ r.headers.Perm
        (.ofText "content-length" (Decimal.ofNat (Utf8.encode r'.body).length) :: r'.headers)

/-- A server with a literal path routes by it. -/
theorem routesBy_path (hliteral : PathPattern.isLiteral s.path = true) (htime : s.requestSecs ≠ 0) : s.RoutesBy s.path where
  handled := by
    intro fresh q
    rw [responseTo?, Option.isSome_map, Option.isSome_iff_exists]
    exact handled_iff
  found := by
    intro fresh q hq
    rw [responseTo?_eq htime hq, answered, if_pos (serves_path hliteral)]
  missing := by
    intro fresh q path hq hpath
    rw [responseTo?_eq htime hq, answered, if_neg (mt (serves_iff hliteral).1 hpath)]
  behind := by
    intro q q' path path' hq hq' hdiffer
    cases hdiffer.path_eq hq hq'
    refine ⟨s.answered path q, fun fresh => ⟨responseTo?_eq htime hq, ?_⟩⟩
    rw [responseTo?_eq htime hq', hdiffer.headers, answered_congr hdiffer.method hdiffer.body]
  head := by
    intro fresh q q' hq hq' hhead hget hheaders
    obtain ⟨hstatus, hbody, hlength⟩ := onPath_head (s := s) hhead hget
    refine ⟨_, _, responseTo?_eq htime hq, responseTo?_eq htime hq', ?_⟩
    have hserved : s.serves s.path = true := serves_path hliteral
    rw [answered, if_pos hserved, answered, if_pos hserved, hheaders]
    refine ⟨hstatus, hbody, ?_⟩
    -- the length is told before the identifier, which comes last
    show ((s.onPath q).headers ++ _).Perm (_ :: ((s.onPath q').headers ++ _))
    rw [hlength, List.append_assoc]
    exact List.perm_middle

/-- **Routing looks at the path alone.**  The server of any configuration with a literal path that can be routed and some
time for a request routes by that path, whatever the form of a target is, and whatever its query and its fragment hold. -/
theorem routed_by_path (c : Config) (hroutable : isRoutable c.service.path = true)
    (hliteral : PathPattern.isLiteral c.service.path = true) (htime : 0 < c.timeouts.requestSecs) :
    ∃ s, ofConfig? c = some s ∧ s.publicUrl = c.service.publicUrl ∧ s.RoutesBy c.service.path :=
  ⟨configured c, ofConfig?_eq_some hroutable, rfl, routesBy_path hliteral (requestSecs_configured_ne_zero htime)⟩

/-- A service whose path has a letter outside ASCII and an escape, with an address that is written in entities. -/
def accented : Config := { service := { path := "/\u00e9%41".toList, publicUrl := "http://\u00fc/?a&<b>".toList } }

/-- Asks for the headers at an absolute address, whose fragment holds a question mark. -/
def headersOnly : HttpRequest := { method := "HEAD".toList, target := "http://[::1]:80/\u00e9%41#a?b".toList }

/-- Asks for the descriptor, with a query and a fragment. -/
def wholeDescriptor : HttpRequest := { target := "/\u00e9%41?wsdl#a?b".toList }

/-- Asks for the path with its escape resolved. -/
def resolvedEscape : HttpRequest := { target := "/\u00e9A?wsdl".toList }

/-- The first two are answered alike, and the last one is not found. -/
theorem routed_accented : ∃ s r r', ofConfig? accented = some s
    ∧ s.responseTo? "1".toList headersOnly = some r ∧ s.responseTo? "1".toList wholeDescriptor = some r'
    ∧ r.status = r'.status ∧ r.body = []
    ∧ r.headers.Perm (.ofText "content-length" (Decimal.ofNat (Utf8.encode r'.body).length) :: r'.headers)
    ∧ s.responseTo? "1".toList resolvedEscape
      = some (identified (Utf8.encode "1".toList) { status := 404, headers := [], body := [] }) := by
  have hhead : headersOnly.For accented.service.path := HttpRequest.for_of_path? (by decide) rfl (by decide)
  have hwhole : wholeDescriptor.For accented.service.path := HttpRequest.for_of_path? (by decide) rfl (by decide)
  have hresolved : resolvedEscape.For "/\u00e9A".toList := HttpRequest.for_of_path? (by decide) rfl (by decide)
  obtain ⟨s, hs, -, hroutes⟩ := routed_by_path accented (by decide) (by decide) (by decide)
  obtain ⟨r, r', hr, hr', hstatus, hbody, hheaders⟩ := hroutes.head "1".toList _ _ hhead hwhole rfl rfl rfl
  exact ⟨s, r, r', hs, hr, hr', hstatus, hbody, hheaders, hroutes.missing _ _ _ hresolved (by decide)⟩

end Server

end Multiples
