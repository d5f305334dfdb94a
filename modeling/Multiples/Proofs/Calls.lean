import Multiples.Lifecycle.Session
import Multiples.Proofs.Addresses

/-!
# Calls to a running server

A caller names a path; the address of the path on the server is read and asked, and what arrives is read again.  A call
that goes to the path of the service comes to what the service answers, one that goes to another path finds
nothing, and one that goes nowhere fails on the way.

* `Client.textOf_reply`, `Client.numbersOf_reply` — what a caller reads in the reply to a document;
* `Session.verdict`, `Session.replyTo` — what the service has to say, with the limit on the size of a document;
* `Session.Sent` — where a call goes; `Session.sent_of_kept` — a path that reading leaves as it is goes to itself;
* `Session.through_once_sent`, `Session.through_once_unsent` — what comes of one call.
-/

namespace Multiples

/-! ### What is read in a reply -/

namespace Endpoint

theorem head?_envelope (reading : Reading) : (envelope reading).head? = some '<' := by
  cases reading with
  | whole bytes =>
    rcases Service.answered_or_failed bytes with ⟨doc, r, rfl, hr, hzero⟩ | ⟨f, hf⟩
    · rw [envelope, Service.answerBytes_eq_result hr hzero]
      rfl
    · rw [envelope, Service.answerBytes_eq_refuse hf]
      rfl
  | broken reason => rfl
  | expired => rfl

end Endpoint

namespace Client

variable {s : Text}

/-- A document has no byte order mark, so that it is read as it was written. -/
theorem decode_document (h : s.head? = some '<') : ByteOrder.decode (Utf8.encode s) = s := by
  obtain ⟨more, rfl⟩ := List.head?_eq_some_iff.1 h
  have hbytes : Utf8.encode ('<' :: more) = 0x3c :: Utf8.encode more := Utf8.encode_cons '<' more
  have hplain : ByteOrder.decode (0x3c :: Utf8.encode more) = Utf8.decode (0x3c :: Utf8.encode more) := rfl
  rw [hbytes, hplain, ← hbytes, Utf8.decode_encode]

theorem textOf_reply (url : Url) (h : s.head? = some '<') : textOf url (.reply 200 (Utf8.encode s) 0) = .ok s := by
  show Except.ok (ByteOrder.decode (Utf8.encode s)) = Except.ok s
  rw [decode_document h]

theorem numbersOf_reply (url : Url) (h : s.head? = some '<') : numbersOf url (.reply 200 (Utf8.encode s) 0)
    = match Reply.decode s with
      | .ok (.result numbers) => .ok numbers
      | .ok (.fault code message) => .error (.fault code message)
      | .error e => .error (.decode e) := by
  rw [numbersOf, textOf_reply url h]
  rfl

theorem textOf_missing (url : Url) : textOf url (.reply 404 [] 0) = .error (.status 404 []) := rfl

theorem numbersOf_missing (url : Url) : numbersOf url (.reply 404 [] 0) = .error (.status 404 []) := rfl

end Client

namespace Session

open Client (textOf numbersOf)

/-- What a caller gets who asks for the multiples of a divisor in some numbers: they have to fit in the size, and the
divisor must not be zero. -/
def verdict (maxSize : Nat) (r : Request) : Except ClientError (List Int64) :=
  if maxSize < r.encode.byteSize then
    .error (.fault "soap:Server".toList
      "Error processing request: request body could not be read: length limit exceeded".toList)
  else if r.divisor = 0 then
    .error (.fault "soap:Server".toList "Error processing request: division by zero: divisor must be non-zero".toList)
  else .ok (r.numbers.filter fun n => decide (r.divisor.toInt ∣ n.toInt))

/-- What is sent back for a document: it has to fit in the size. -/
def replyTo (maxSize : Nat) (doc : Text) : Text :=
  if maxSize < doc.byteSize then (Service.refuse (.body Body.tooLarge)).body else (Service.answer doc).body

theorem envelope_chunk (maxSize maxSeconds : Nat) (doc : Text) :
    Endpoint.envelope (Body.read maxSize maxSeconds [.chunk (Utf8.encode doc)]) = replyTo maxSize doc := by
  have hread : Body.read maxSize maxSeconds [.chunk (Utf8.encode doc)]
      = if maxSize < (Utf8.encode doc).length then .broken Body.tooLarge else .whole (Utf8.encode doc) := rfl
  rw [hread, Utf8.length_encode, replyTo]
  split
  · rfl
  · rw [Endpoint.envelope, Service.answerBytes_encode]

theorem head?_replyTo (maxSize : Nat) (doc : Text) : (replyTo maxSize doc).head? = some '<' := by
  rw [← envelope_chunk maxSize 1]
  exact Endpoint.head?_envelope _

theorem decode_request (r : Request) : Request.decode r.encode = .ok r :=
  Request.decode_eq_ok_iff.2 ⟨Request.intListField_encode r, Request.intField_encode r⟩

theorem faultMessage_tooLarge : Service.faultMessage (.body Body.tooLarge)
    = "Error processing request: request body could not be read: length limit exceeded".toList := by
  decide +kernel

theorem faultMessage_zero : Service.faultMessage (.filter .divisionByZero)
    = "Error processing request: division by zero: divisor must be non-zero".toList := by
  decide +kernel

theorem numbersOf_replyTo (url : Url) (maxSize : Nat) (r : Request) :
    numbersOf url (.reply 200 (Utf8.encode (replyTo maxSize r.encode)) 0) = verdict maxSize r := by
  rw [Client.numbersOf_reply url (head?_replyTo maxSize r.encode), replyTo, verdict]
  by_cases hsize : maxSize < r.encode.byteSize
  · rw [if_pos hsize, if_pos hsize, Service.decode_refuse, faultMessage_tooLarge]
    rfl
  rw [if_neg hsize, if_neg hsize]
  by_cases hzero : r.divisor = 0
  · have herror : Service.multiplesIn r.encode = .error (.filter .divisionByZero) :=
      Service.multiplesIn_eq_error_iff.2 (Or.inr ⟨r, decode_request r, hzero, rfl⟩)
    rw [if_pos hzero, Service.answer_of_error herror, Service.decode_refuse, faultMessage_zero]
    rfl
  · have hok := Service.multiplesIn_eq_ok_iff.2 ⟨r, decode_request r, hzero, rfl⟩
    have hread := Reply.decode_encodeResult (r.numbers.filter (divides r.divisor))
    rw [if_neg hzero, Service.answer_of_ok hok, Outcome.body, hread]
    rfl

/-! ### Where a call goes -/

/-- The address of a path at a host and a port. -/
def addressAt (host : Text) (port : Nat) (path : Text) : Text :=
  "http://".toList ++ host ++ ':' :: Decimal.ofNat port ++ path

/-- Whether a call to a path goes to an address, and so to the server at a host and a port. -/
structure Sent (host : Text) (port : Nat) (path : Text) (url : Url) : Prop where
  read : (Url.parse? (addressAt host port path)).map Url.anonymous = some url
  asked : Client.canAsk url = true
  here : url.isAt host port = true

variable {host path : Text} {port : Nat} {url : Url}

theorem addressAt_eq : addressAt host port path = Url.web ++ ':' :: Url.plainRest host port path := by
  show "http://".toList ++ host ++ Url.portText port ++ path = "http://".toList ++ (host ++ Url.portText port ++ path)
  simp

/-- A request at an address that a call goes to asks for the path of the address. -/
theorem Sent.path? (h : Sent host port path url) : Target.path? url.target = some url.path := by
  obtain ⟨read, hread, rfl⟩ := Option.map_eq_some_iff.1 h.read
  rw [addressAt_eq] at hread
  exact Url.path?_of_canAsk (Url.sendable_of_parse? hread).anonymous h.asked

/-- A path that reading leaves as it is has an address that is read as it is. -/
theorem parse?_of_kept (h : Url.Plain host port) (hslash : path.head? = some '/')
    (hkept : (Url.parse? (addressAt host port path)).map Url.path = some path) :
    Url.parse? (addressAt host port path) = some (Url.plain host port path) ∧ path.all Target.isPathChar = true := by
  rw [addressAt_eq] at hkept ⊢
  obtain ⟨read, hread, hpath⟩ := Option.map_eq_some_iff.1 hkept
  have hchars : path.all Target.isPathChar = true := by
    rw [← hpath]
    exact (Url.sendable_of_parse? hread).path
  have hplain := Url.parse?_plain h hslash hchars
  rw [hplain] at hkept
  have hresolved : Url.resolvePath .http (path.drop 1) = path := Option.some.inj hkept
  rw [hplain, hresolved]
  exact ⟨rfl, hchars⟩

/-- A path that reading leaves as it is has no braces, since they would be encoded. -/
theorem isLiteral_of_kept (hkept : (Url.parse? (addressAt host port path)).map Url.path = some path) :
    PathPattern.isLiteral path = true := by
  rw [addressAt_eq] at hkept
  obtain ⟨read, hread, hpath⟩ := Option.map_eq_some_iff.1 hkept
  rw [← hpath]
  exact (Url.sendable_of_parse? hread).literal

/-- Such a path goes to the server as it is, if its address is not too long. -/
theorem sent_of_kept (h : Url.Plain host port) (hslash : path.head? = some '/')
    (hkept : (Url.parse? (addressAt host port path)).map Url.path = some path)
    (hsize : (addressAt host port path).byteSize ≤ 65534) : Sent host port path (Url.plain host port path) := by
  obtain ⟨hread, hchars⟩ := parse?_of_kept h hslash hkept
  have htext : (Url.plain host port path).text.byteSize ≤ 65534 := by
    have hport : (Url.keptText port).byteSize ≤ (Url.portText port).byteSize := by
      rw [Url.keptText]
      split
      · exact Nat.zero_le _
      · exact Nat.le_refl _
    rw [addressAt_eq, Url.plainRest] at hsize
    rw [Url.text_plain]
    simp only [Text.byteSize_append, Text.byteSize] at hsize ⊢
    omega
  refine ⟨?_, Url.canAsk_plain h hslash hchars htext, Url.isAt_plain⟩
  rw [hread, Option.map_some, Url.anonymous_plain]

/-! ### What arrives -/

variable {server : Server} {s : Session} {fresh : Text}

section Arrivals

variable (htarget : Target.path? url.target = some url.path)
include htarget

theorem handle?_postRequest (fresh doc : Text) : server.handle? fresh (Client.postRequest url doc)
    = some (server.handle fresh url.path (Client.postRequest url doc)) := Server.handle?_eq_some rfl rfl htarget

theorem handle?_getRequest (fresh : Text) : server.handle? fresh (Client.getRequest url)
    = some (server.handle fresh url.path (Client.getRequest url)) := Server.handle?_eq_some rfl rfl htarget

/-- Where the endpoint is not, there is nothing for one who sends a document. -/
theorem arrivalOf_post_elsewhere (htime : server.requestSecs ≠ 0) (hunserved : ¬ server.serves url.path = true)
    (fresh doc : Text) : arrivalOf (server.handle? fresh (Client.postRequest url doc)) = .reply 404 [] 0 := by
  rw [handle?_postRequest htarget, Server.handle_elsewhere hunserved htime]
  rfl

theorem arrivalOf_get_elsewhere (htime : server.requestSecs ≠ 0) (hunserved : ¬ server.serves url.path = true)
    (fresh : Text) : arrivalOf (server.handle? fresh (Client.getRequest url)) = .reply 404 [] 0 := by
  rw [handle?_getRequest htarget, Server.handle_elsewhere hunserved htime]
  rfl

theorem arrivalOf_post (htime : server.requestSecs ≠ 0) (hserved : server.serves url.path = true) (fresh doc : Text) :
    arrivalOf (server.handle? fresh (Client.postRequest url doc))
      = .reply 200 (Utf8.encode (replyTo server.maxBodySize doc)) 0 := by
  have hmethod : (Client.postRequest url doc).method = Method.post := rfl
  have hresponse := Server.response_post htime hserved fresh hmethod
  have hbody : (Client.postRequest url doc).body = [.chunk (Utf8.encode doc)] := rfl
  rw [hbody, envelope_chunk] at hresponse
  rw [handle?_postRequest htarget, arrivalOf, hresponse]
  rfl

theorem arrivalOf_get (htime : server.requestSecs ≠ 0) (hserved : server.serves url.path = true) (fresh : Text) :
    arrivalOf (server.handle? fresh (Client.getRequest url))
      = .reply 200 (Utf8.encode (Descriptor.document server.publicUrl)) 0 := by
  have hmethod : (Client.getRequest url).method = Method.get := rfl
  have hresponse := Server.response_get htime hserved fresh hmethod
  rw [handle?_getRequest htarget, arrivalOf, hresponse]
  rfl

end Arrivals

/-! ### One call -/

/-- A caller who reads a reply, and is told when there is none. -/
def Reads {α : Type} (read : Url → Arrival → Except ClientError α) : Prop :=
  ∀ url, read url .nothing = .error (.transport (.noReply url))

theorem reads_textOf : Reads textOf := fun _ => rfl

theorem reads_numbersOf : Reads numbersOf := fun _ => rfl

section Once

variable {α : Type} {request : Url → HttpRequest} {read : Url → Arrival → Except ClientError α}

/-- Asking leaves a session as it is but for what is told about it. -/
theorem through_once_records (s : Session) (fresh endpoint : Text) :
    ∃ records, (Dialog.through (answer fresh) s (Client.once endpoint request read)).2 = { s with records } := by
  have hsame : s = { s with records := s.records } := rfl
  rw [Client.once]
  split
  · split
    · rw [Dialog.through, Dialog.through, answer]
      split
      · exact ⟨_, rfl⟩
      · exact ⟨_, hsame⟩
    · exact ⟨_, hsame⟩
  · exact ⟨_, hsame⟩

/-- A call that goes to the server gets what the server answers. -/
theorem through_once_sent (hrunning : s.running = true) (hsent : Sent s.host s.port path url) {arrival : Arrival}
    (harrival : arrivalOf (s.server.handle? fresh (request url)) = arrival) :
    (Dialog.through (answer fresh) s (Client.once (s.address path) request read)).1 = read url arrival := by
  have hread : (Url.parse? (s.address path)).map Url.anonymous = some url := hsent.read
  rw [Client.through_once hread hsent.asked, ← harrival, answer, if_pos ⟨hrunning, hsent.here⟩]

/-- Where nothing answers, the call fails on the way. -/
theorem through_once_unsent (hreads : Reads read)
    (hunsent : s.running = false ∨ ∀ url, ¬ Sent s.host s.port path url) :
    ∃ e, (Dialog.through (answer fresh) s (Client.once (s.address path) request read)).1 = .error (.transport e) := by
  rw [Client.once]
  cases hread : (Url.parse? (s.address path)).map Url.anonymous with
  | none => exact ⟨_, rfl⟩
  | some url =>
    by_cases hasked : Client.canAsk url = true
    · have hnot : ¬ (s.running = true ∧ url.isAt s.host s.port = true) := by
        intro hhere
        rcases hunsent with hended | hunsent
        · rw [hended] at hhere
          exact absurd hhere.1 Bool.false_ne_true
        · exact hunsent url ⟨hread, hasked, hhere.2⟩
      simp only [hasked, if_true]
      rw [Dialog.through, Dialog.through, answer, if_neg hnot, hreads url]
      exact ⟨_, rfl⟩
    · simp only [hasked]
      exact ⟨_, rfl⟩

/-- What comes of a call does not depend on what has been told before. -/
theorem through_once_congr (s : Session) (records : List Log.Record) (fresh endpoint : Text) :
    (Dialog.through (answer fresh) { s with records } (Client.once endpoint request read)).1
      = (Dialog.through (answer fresh) s (Client.once endpoint request read)).1 := by
  rw [Client.once]
  split
  · split
    · rw [Dialog.through, Dialog.through, Dialog.through, Dialog.through, answer, answer]
      split <;> rfl
    · rfl
  · rfl

end Once

end Session

end Multiples
