import Multiples.Dialog
import Multiples.Text.Hex

/-!
# Messages as bytes

How requests and responses travel over a connection that carries one exchange: a first line, headers, an empty line,
and a body whose end is given by its length, by chunks, or by the end of the connection.

* `Wire.request` and `Wire.response` write messages;
* `Wire.head?` reads the beginning of a message, `Wire.body` what has arrived of its body;
* `Wire.arrival` reads a reply after the connection has ended.
-/

namespace Multiples

namespace Wire

/-! ### Bytes as characters -/

/-- Bytes as the characters with their numbers. -/
def ofBytes (bytes : List UInt8) : Text := bytes.map fun b => Char.ofNat b.toNat

/-- Characters as the bytes with their numbers. -/
def toBytes (s : Text) : List UInt8 := s.map fun c => UInt8.ofNat c.toNat

/-- The end of a line. -/
def lineEnd : Text := ['\r', '\n']

/-! ### Writing -/

/-- A header on a line. -/
def headerLine (h : Header) : List UInt8 :=
  toBytes h.name ++ toBytes [':', ' '] ++ h.value ++ toBytes lineEnd

/-- The first line and the headers of a message, and the line that ends them. -/
def head (first : Text) (headers : List Header) : List UInt8 :=
  Utf8.encode first ++ toBytes lineEnd ++ headers.flatMap headerLine ++ toBytes lineEnd

/-- A header with a length. -/
def lengthHeader (n : Nat) : Header := .ofText "content-length" (Decimal.ofNat n)

/-- A header that ends the connection after this exchange. -/
def closing : Header := .ofText "connection" "close".toList

/-- The bytes of a body that is sent at once. -/
def bytesOf (parts : List BodyPart) : List UInt8 :=
  parts.flatMap fun p => match p with
    | .chunk bytes => bytes
    | _ => []

/-- A request to an address. -/
def request (url : Url) (r : HttpRequest) : List UInt8 :=
  let body := bytesOf r.body
  let host := Header.ofText "host" (url.host ++ ':' :: Decimal.ofNat url.port)
  head (r.method ++ ' ' :: r.target ++ " HTTP/1.1".toList)
    (host :: closing :: lengthHeader body.length :: r.headers) ++ body

/-- What a status is called. -/
def reason (status : Nat) : Text :=
  if status = 200 then "OK".toList
  else if status = 400 then "Bad Request".toList
  else if status = 404 then "Not Found".toList
  else if status = 405 then "Method Not Allowed".toList
  else "Unknown".toList

/-- A response. -/
def response (r : HttpResponse) : List UInt8 :=
  let body := Utf8.encode r.body
  let length := if r.headers.any (Header.named "content-length".toList) then [] else [lengthHeader body.length]
  head ("HTTP/1.1 ".toList ++ Decimal.ofNat r.status ++ ' ' :: reason r.status)
    (closing :: length ++ r.headers) ++ body

/-! ### Reading the beginning -/

/-- The first line and the headers of a message. -/
structure Head where
  first : Text
  headers : List Header

/-- A text without the spaces and tabs at its ends. -/
def stripped (s : Text) : Text :=
  let isBlank := fun c => c = ' ' || c = '\t'
  ((s.dropWhile isBlank).reverse.dropWhile isBlank).reverse

/-- The header on a line. -/
def header? (line : Text) : Option Header :=
  (Text.cut? [':'] line).map fun h => { name := h.1, value := toBytes (stripped h.2) }

/-- The beginning of a message and the bytes after it. -/
def head? (bytes : List UInt8) : Option (Head × List UInt8) :=
  match Text.cut? (lineEnd ++ lineEnd) (ofBytes bytes) with
  | some (front, rest) =>
    match (Text.cells '\n' front).map fun line => line.filter (· != '\r') with
    | first :: lines => some ({ first, headers := lines.filterMap header? }, toBytes rest)
    | [] => none
  | none => none

/-- The words of the first line. -/
def Head.words (h : Head) : List Text := Text.cells ' ' h.first

/-! ### Reading the body -/

/-- The length that a header gives. -/
def length? (headers : List Header) : Option Nat :=
  (Header.first? "content-length".toList headers).bind fun value => Decimal.nat? (ofBytes value)

/-- Whether the body comes in chunks. -/
def isChunked (headers : List Header) : Bool :=
  (Header.first? "transfer-encoding".toList headers).any fun value =>
    Text.occurs "chunked".toList (Header.small (ofBytes value))

/-- What has arrived of a body in chunks, at most so many of them, and whether it is all. -/
def unchunked : Nat → Text → Text × Bool
  | 0, _ => ([], false)
  | n + 1, s =>
    match Text.cut? lineEnd s with
    | none => ([], false)
    | some (size, rest) =>
      let digits := size.takeWhile Hex.isDigit
      let length := Hex.nat digits
      if digits = [] then ([], false)
      else if length = 0 then ([], true)
      else
        let more := unchunked n (rest.drop (length + 2))
        (rest.take length ++ more.1, more.2)

/-- What has arrived of the body of a request, and whether it is all; a request without a length has no body. -/
def body (headers : List Header) (rest : List UInt8) : List UInt8 × Bool :=
  if isChunked headers then
    let found := unchunked rest.length (ofBytes rest)
    (toBytes found.1, found.2)
  else
    let length := (length? headers).getD 0
    (rest.take length, decide (length ≤ rest.length))

/-- The request with a beginning, without its body. -/
def request? (h : Head) : Option HttpRequest :=
  match h.words with
  | [method, target, _] => some { method, target := Utf8.decode (toBytes target), headers := h.headers }
  | _ => none

/-- The versions of the first line of a reply. -/
def versions : List Text := ["HTTP/1.1".toList, "HTTP/1.0".toList]

/-- The status in the first line of a reply. -/
def status? (h : Head) : Option Nat :=
  match h.words with
  | version :: code :: _ =>
    if versions.contains version ∧ code.length = 3 then (Decimal.nat? code).filter Status.isValid else none
  | _ => none

/-- What has arrived of a reply with a status and some headers.  Of a body in chunks that broke off, at least one byte is
missing; a body without a length ends with the connection. -/
def replyOf (status : Nat) (headers : List Header) (rest : List UInt8) : Arrival :=
  if isChunked headers then
    let found := unchunked rest.length (ofBytes rest)
    .reply status (toBytes found.1) (if found.2 then 0 else 1)
  else
    match length? headers with
    | some length => .reply status (rest.take length) (length - rest.length)
    | none => .reply status rest 0

/-- What has arrived of the first reply that is not followed by another, among at most so many. -/
def arrivalWithin : Nat → List UInt8 → Arrival
  | 0, _ => .nothing
  | n + 1, bytes =>
    match head? bytes with
    | none => .nothing
    | some (h, rest) =>
      match status? h with
      | none => .nothing
      | some status => if Status.isInterim status then arrivalWithin n rest else replyOf status h.headers rest

/-- What has arrived of a reply when the connection has ended. -/
def arrival (bytes : List UInt8) : Arrival := arrivalWithin bytes.length bytes

end Wire

end Multiples
