import Multiples.Config.Basic
import Multiples.Http.Endpoint
import Multiples.Http.PathPattern
import Multiples.Http.RequestId
import Multiples.Http.Target

/-!
# The server

One endpoint, and nothing anywhere else.  The path of the service is a pattern: braces in it make placeholders, so that
the endpoint is on many paths, and braces that are written twice stand for themselves.  Where requests are for *the* path
of the service, this is meant of a literal path, which has no braces and is served as it is written
(`Server.serves_iff`).

* `Server.ofConfig?` is the server of a configuration, if its path can be routed;
* `Server.serves` says which paths the endpoint is on;
* `Server.handle?` handles one request, if it is a valid one;
* `Server.run` handles requests one after another.
-/

namespace Multiples

/-- What a server needs to answer requests. -/
structure Server where
  path : Text
  publicUrl : Text
  maxBodySize : Nat
  requestSecs : Nat
deriving DecidableEq, Repr

namespace Server

/-- Whether a path can be routed: it begins with a slash, none of its segments begins with a colon or an asterisk, as
placeholders once did, and it is a pattern. -/
def isRoutable (path : Text) : Bool :=
  match path with
  | '/' :: segments =>
    (Text.cells '/' segments).all (fun segment => segment.head? != some ':' && segment.head? != some '*')
      && (PathPattern.ofText? path).isSome
  | _ => false

/-- The server of a configuration. -/
def ofConfig? (c : Config) : Option Server :=
  if isRoutable c.service.path then
    some {
      path := c.service.path
      publicUrl := c.service.publicUrl
      maxBodySize := c.listener.maxBodySize.toNat
      requestSecs := c.timeouts.requestSecs.toNat }
  else none

/-- Whether the endpoint is on a path: the path fits the pattern of the service. -/
def serves (s : Server) (path : Text) : Bool := (PathPattern.ofText? s.path).any fun p => p.fits path

/-- A literal path of a service is the one path that the endpoint is on. -/
theorem serves_iff {s : Server} {path : Text} (h : PathPattern.isLiteral s.path = true) :
    s.serves path = true ↔ path = s.path := by
  rw [serves, PathPattern.ofText?_of_isLiteral h, Option.any_some, PathPattern.fits_chars]

theorem serves_path {s : Server} (h : PathPattern.isLiteral s.path = true) : s.serves s.path = true := (serves_iff h).2 rfl

/-! ### From request to answer -/

/-- What the endpoint does with a request. -/
def atEndpoint (s : Server) (r : HttpRequest) : Handled :=
  if r.method = Method.get ∨ r.method = Method.head then Endpoint.describe s.publicUrl r.method
  else if r.method = Method.post then Endpoint.process s.maxBodySize s.requestSecs r.body
  else Endpoint.reject r.method

/-- What is done with a request for a path.  With no time at all, no request gets as far as its handler. -/
def route (s : Server) (path : Text) (r : HttpRequest) : Handled :=
  if s.requestSecs = 0 then Endpoint.expired
  else if s.serves path then s.atEndpoint r
  else { response := { status := 404 } }

/-- The methods that the endpoint knows. -/
def isKnown (method : Text) : Bool := method = Method.get || method = Method.head || method = Method.post

/-- Whether an answer to one who only asks for the headers is cut down to them: that is done by the endpoint, and for
targets that name no path. -/
def isCutDown (s : Server) (path : Text) : Bool := s.serves path || path.head? != some '/'

/-- A response as it goes out to a method: without a body to one that only asks for the headers, and to one that
asked for a tunnel and got it; with the methods of the endpoint where an unknown one was answered otherwise. -/
def finish (s : Server) (path method : Text) (r : HttpResponse) : HttpResponse :=
  if method = Method.head then
    if r.status = 404 ∨ ¬ s.isCutDown path then r
    else
      { r with
        headers := r.headers ++ [.ofText "content-length" (Decimal.ofNat r.body.byteSize)]
        body := [] }
  else if method = Method.connect ∧ r.status = 200 then { r with body := [] }
  else if s.serves path ∧ ¬ isKnown method ∧ ¬ r.headers.any (Header.named "allow".toList) then
    { r with headers := r.headers ++ [Endpoint.allowHeader "GET,HEAD,POST"] }
  else r

/-- A response with the identifier of its request. -/
def identified (id : List UInt8) (r : HttpResponse) : HttpResponse :=
  { r with headers := r.headers ++ [{ name := RequestId.headerName, value := id }] }

/-- Handles a valid request for a path, given a fresh identifier. -/
def handle (s : Server) (fresh path : Text) (r : HttpRequest) : Handled :=
  let handled := Endpoint.readableHandled (s.route path r)
  { handled with
    response := identified (RequestId.assigned fresh r.headers) (s.finish path r.method handled.response) }

/-- Handles a request, if its method, its headers and its target are valid. -/
def handle? (s : Server) (fresh : Text) (r : HttpRequest) : Option Handled :=
  if Method.isToken r.method ∧ r.headers.all Header.isValid then (Target.path? r.target).map fun path => s.handle fresh path r else none

/-- Handles requests one after another. -/
def run (s : Server) (fresh : Text) (requests : List HttpRequest) : List (Option Handled) :=
  requests.map (s.handle? fresh)

/-- The calls that count in the metrics. -/
def calls (handled : List (Option Handled)) : List Call := handled.filterMap fun h => h.bind Handled.call

end Server

end Multiples
