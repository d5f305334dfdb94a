import Multiples.Service
import Multiples.Proofs.Divisibility
import Multiples.Proofs.Envelopes

/-!
# Answers that callers can read

Any bytes at all may be sent to the service, and parts of them come back in a message: unescaped, trimmed, quoted
and escaped again.  Whatever they are, the answer is an envelope that the decoder of replies takes apart again,
and what it reads is what became of the request.

* `FirstFailure` — what is first found wrong with the bytes of a request, in the order of the checks: their
  encoding, the tokens of the numbers, the divisor, and last the divisor zero;
* `Service.multiplesIn_eq_ok_iff`, `Service.multiplesIn_eq_error_iff` — when a document has an answer, and which;
* `Service.answered_or_failed` — every byte sequence is a request that can be answered, or has a first failure;
* `Service.answerBytes_eq_refuse` — the first failure is the one that is told;
* `Service.answerBytes_agrees` — the answer to any bytes and what a caller reads in it;
* `Service.decode_answer_encode` — what is read from the answer to a written request: the multiples of its divisor,
  or the fault of a zero divisor.
-/

namespace Multiples

/-! ### Well-formed bytes -/

/-- Bytes are read as a text exactly if they are the encoding of that text. -/
theorem Utf8.decode?_eq_some_iff {bytes : List UInt8} {doc : Text} :
    Utf8.decode? bytes = some doc ↔ bytes = Utf8.encode doc := by
  constructor
  · intro h
    obtain ⟨chars, hchars, rfl⟩ := Option.map_eq_some_iff.1 h
    have hsome : bytes.toByteArray.utf8Decode?.isSome = true := by rw [hchars, Option.isSome_some]
    have hget : bytes.toByteArray.utf8Decode?.get hsome = chars := Option.get_of_eq_some hsome hchars
    have hback : chars.toList.utf8Encode = bytes.toByteArray := by
      rw [← hget, ByteArray.utf8Encode_get_utf8Decode?]
    exact List.toByteArray_inj.1 hback.symm
  · intro hsame
    subst hsame
    exact Utf8.decode?_encode doc

/-! ### The first failure -/

/-- What is first found wrong with the bytes of a request: they are the encoding of no text; a token of the numbers
is no integer, and those before it are; the numbers are integers, and the divisor is none; or all can be read, and
the divisor is zero. -/
inductive FirstFailure (bytes : List UInt8) : Failure → Prop
  | encoding (hbytes : ∀ doc, bytes ≠ Utf8.encode doc) : FirstFailure bytes .notUtf8
  | number {doc raw token : Text} {before after : List Text} (hbytes : bytes = Utf8.encode doc)
      (hraw : Envelope.field? doc Request.numbersTag = some raw)
      (htokens : (Markup.unescape raw).cells ',' = before ++ token :: after)
      (hbefore : before.all Envelope.isInteger = true) (htoken : Envelope.isInteger token = false) :
      FirstFailure bytes (.decode (.invalidNumber Request.numbersTag token.trim))
  | divisor {doc raw : Text} {numbers : List Int64} (hbytes : bytes = Utf8.encode doc)
      (hnumbers : Envelope.intListField doc Request.numbersTag [] = .ok numbers)
      (hraw : Envelope.field? doc Request.divisorTag = some raw)
      (htoken : Envelope.isInteger (Markup.unescape raw) = false) :
      FirstFailure bytes (.decode (.invalidNumber Request.divisorTag (Markup.unescape raw).trim))
  | zero {doc : Text} {r : Request} (hbytes : bytes = Utf8.encode doc) (hr : Request.decode doc = .ok r)
      (hzero : r.divisor = 0) : FirstFailure bytes (.filter .divisionByZero)

/-- A document that cannot be read as a request has a first failure, which is the error of reading it. -/
theorem FirstFailure.of_decode {doc : Text} {e : DecodeError} (h : Request.decode doc = .error e) :
    FirstFailure (Utf8.encode doc) (.decode e) := by
  rcases Request.decode_eq_error_iff.1 h with hnumbers | ⟨numbers, hnumbers, hdivisor⟩
  · obtain ⟨raw, hraw, htokens⟩ := Envelope.intListField_eq_error_iff.1 hnumbers
    obtain ⟨before, token, after, hcells, hbefore, htoken, rfl⟩ := Envelope.readInts_eq_error_iff.1 htokens
    exact .number rfl hraw hcells hbefore htoken
  · obtain ⟨raw, hraw, htoken⟩ := Envelope.intField_eq_error_iff.1 hdivisor
    obtain ⟨hbad, rfl⟩ := Envelope.readInt_eq_error_iff.1 htoken
    exact .divisor rfl hnumbers hraw hbad

namespace Service

/-! ### What is computed from a document -/

/-- A document has an answer if it is a request whose divisor is not zero: the multiples of the divisor. -/
theorem multiplesIn_eq_ok_iff {doc : Text} {kept : List Int64} :
    multiplesIn doc = .ok kept
      ↔ ∃ r, Request.decode doc = .ok r ∧ r.divisor ≠ 0 ∧ kept = r.numbers.filter (divides r.divisor) := by
  rw [multiplesIn, Stages.bind_eq_ok_iff]
  refine exists_congr fun r => ?_
  rw [Stages.mapError_eq_ok_iff, Stages.mapError_eq_ok_iff]
  refine and_congr_right fun _ => ?_
  by_cases hzero : r.divisor = 0
  · rw [hzero, multiplesOf_zero]
    simp
  · rw [multiplesOf_eq_ok hzero, Except.ok.injEq]
    exact ⟨fun h => ⟨hzero, h.symm⟩, fun h => h.2.symm⟩

/-- A document has no answer if it is no request, or one whose divisor is zero. -/
theorem multiplesIn_eq_error_iff {doc : Text} {f : Failure} :
    multiplesIn doc = .error f ↔ (∃ e, Request.decode doc = .error e ∧ .decode e = f)
      ∨ ∃ r, Request.decode doc = .ok r ∧ r.divisor = 0 ∧ f = .filter .divisionByZero := by
  rw [multiplesIn, Stages.bind_eq_error_iff, Stages.mapError_eq_error_iff]
  refine or_congr_right (exists_congr fun r => ?_)
  rw [Stages.mapError_eq_ok_iff, Stages.mapError_eq_error_iff]
  refine and_congr_right fun _ => ?_
  by_cases hzero : r.divisor = 0
  · rw [hzero, multiplesOf_zero]
    constructor
    · intro hgiven
      obtain ⟨e, he, rfl⟩ := hgiven
      cases he
      exact ⟨rfl, rfl⟩
    · intro hgiven
      obtain ⟨-, rfl⟩ := hgiven
      exact ⟨.divisionByZero, rfl, rfl⟩
  · rw [multiplesOf_eq_ok hzero]
    simp [hzero]

theorem answer_of_ok {doc : Text} {kept : List Int64} (h : multiplesIn doc = .ok kept) :
    answer doc = .result (Reply.encodeResult kept) := by
  rw [answer, h]

theorem answer_of_error {doc : Text} {f : Failure} (h : multiplesIn doc = .error f) : answer doc = refuse f := by
  rw [answer, h]

theorem answerBytes_encode (doc : Text) : answerBytes (Utf8.encode doc) = answer doc := by
  rw [answerBytes, Utf8.decode?_encode]

/-! ### What callers read -/

/-- A refusal is read as a fault of the service with the message of the failure. -/
theorem decode_refuse (f : Failure) :
    Reply.decode (refuse f).body = .ok (.fault Reply.serverCode (faultMessage f)) :=
  Reply.decode_encodeFault _ _

/-- So refusals that are the same document carry the same message. -/
theorem message_eq_of_refuse_eq {f g : Failure} (h : (refuse f).body = (refuse g).body) : f.message = g.message := by
  have hread := congrArg Reply.decode h
  rw [decode_refuse, decode_refuse] at hread
  injection hread with hreply
  injection hreply with _ hmessage
  exact List.append_cancel_left hmessage

/-- **The first failure is the one that is told.** -/
theorem answerBytes_eq_refuse {bytes : List UInt8} {f : Failure} (h : FirstFailure bytes f) :
    answerBytes bytes = refuse f := by
  cases h with
  | encoding hbytes =>
    have hnone : Utf8.decode? bytes = none := by
      refine Option.eq_none_iff_forall_ne_some.2 fun doc hdoc => ?_
      exact hbytes doc (Utf8.decode?_eq_some_iff.1 hdoc)
    rw [answerBytes, hnone]
  | @number doc raw token before after hbytes hraw htokens hbefore htoken =>
    have hread : Request.decode doc = .error (.invalidNumber Request.numbersTag token.trim) := by
      refine Request.decode_eq_error_iff.2 (Or.inl (Envelope.intListField_eq_error_iff.2 ⟨raw, hraw, ?_⟩))
      exact Envelope.readInts_eq_error_iff.2 ⟨before, token, after, htokens, hbefore, htoken, rfl⟩
    rw [hbytes, answerBytes_encode]
    exact answer_of_error (multiplesIn_eq_error_iff.2 (Or.inl ⟨_, hread, rfl⟩))
  | @divisor doc raw numbers hbytes hnumbers hraw htoken =>
    have hread : Request.decode doc = .error (.invalidNumber Request.divisorTag (Markup.unescape raw).trim) := by
      refine Request.decode_eq_error_iff.2 (Or.inr ⟨numbers, hnumbers, ?_⟩)
      refine Envelope.intField_eq_error_iff.2 ⟨raw, hraw, ?_⟩
      exact Envelope.readInt_eq_error_iff.2 ⟨htoken, rfl⟩
    rw [hbytes, answerBytes_encode]
    exact answer_of_error (multiplesIn_eq_error_iff.2 (Or.inl ⟨_, hread, rfl⟩))
  | @zero doc r hbytes hr hzero =>
    rw [hbytes, answerBytes_encode]
    exact answer_of_error (multiplesIn_eq_error_iff.2 (Or.inr ⟨r, hr, hzero, rfl⟩))

/-- Every byte sequence is the encoding of a request with a divisor other than zero, or has a first failure. -/
theorem answered_or_failed (bytes : List UInt8) :
    (∃ doc r, bytes = Utf8.encode doc ∧ Request.decode doc = .ok r ∧ r.divisor ≠ 0) ∨ ∃ f, FirstFailure bytes f := by
  by_cases hbytes : ∃ doc, bytes = Utf8.encode doc
  · obtain ⟨doc, rfl⟩ := hbytes
    cases hread : Request.decode doc with
    | error e => exact Or.inr ⟨.decode e, .of_decode hread⟩
    | ok r =>
      by_cases hzero : r.divisor = 0
      · exact Or.inr ⟨.filter .divisionByZero, .zero rfl hread hzero⟩
      · exact Or.inl ⟨doc, r, rfl, hread, hzero⟩
  · refine Or.inr ⟨.notUtf8, .encoding fun doc hdoc => ?_⟩
    exact hbytes ⟨doc, hdoc⟩

/-- The answer to an encoded request with a divisor other than zero. -/
theorem answerBytes_eq_result {doc : Text} {r : Request} (hr : Request.decode doc = .ok r) (hzero : r.divisor ≠ 0) :
    answerBytes (Utf8.encode doc) = .result (Reply.encodeResult (r.numbers.filter (divides r.divisor))) := by
  rw [answerBytes_encode]
  exact answer_of_ok (multiplesIn_eq_ok_iff.2 ⟨r, hr, hzero, rfl⟩)

/-! ### Main statements -/

/-- **Every answer can be read, and says what became of the request.**  The answer to any bytes is a result exactly
if they encode a request with a divisor other than zero, and what is read in it are the multiples of that divisor;
otherwise the bytes have a first failure, and what is read is a fault that blames the service with the very message
that the outcome carries.  No answer is unreadable. -/
theorem answerBytes_agrees (bytes : List UInt8) :
    ((answerBytes bytes).isFault = false
      ↔ ∃ doc r, bytes = Utf8.encode doc ∧ Request.decode doc = .ok r ∧ r.divisor ≠ 0)
    ∧ (∀ doc r, bytes = Utf8.encode doc → Request.decode doc = .ok r → r.divisor ≠ 0 →
        Reply.decode (answerBytes bytes).body
          = .ok (.result (r.numbers.filter fun n => decide (r.divisor.toInt ∣ n.toInt))))
    ∧ ((answerBytes bytes).isFault = true ↔ ∃ f, FirstFailure bytes f)
    ∧ (∀ f, FirstFailure bytes f →
        answerBytes bytes = .fault (answerBytes bytes).body ("Error processing request: ".toList ++ f.message)
        ∧ Reply.decode (answerBytes bytes).body
          = .ok (.fault "soap:Server".toList ("Error processing request: ".toList ++ f.message)))
    ∧ ∀ e, Reply.decode (answerBytes bytes).body ≠ .error e := by
  have hresult : ∀ doc r, bytes = Utf8.encode doc → Request.decode doc = .ok r → r.divisor ≠ 0 →
      answerBytes bytes = .result (Reply.encodeResult (r.numbers.filter (divides r.divisor))) := by
    intro doc r hbytes hr hzero
    subst hbytes
    exact answerBytes_eq_result hr hzero
  have hfault : ∀ f, FirstFailure bytes f → answerBytes bytes = refuse f := fun f => answerBytes_eq_refuse
  refine ⟨⟨fun h => ?_, ?_⟩, ?_, ⟨fun h => ?_, ?_⟩, ?_, ?_⟩
  · rcases answered_or_failed bytes with hok | ⟨f, hf⟩
    · exact hok
    · rw [hfault f hf] at h
      exact Bool.noConfusion h
  · intro hgiven
    obtain ⟨doc, r, hbytes, hr, hzero⟩ := hgiven
    rw [hresult doc r hbytes hr hzero]
    rfl
  · intro doc r hbytes hr hzero
    rw [hresult doc r hbytes hr hzero]
    exact Reply.decode_encodeResult _
  · rcases answered_or_failed bytes with ⟨doc, r, hbytes, hr, hzero⟩ | hfailed
    · rw [hresult doc r hbytes hr hzero] at h
      exact Bool.noConfusion h
    · exact hfailed
  · intro hgiven
    obtain ⟨f, hf⟩ := hgiven
    rw [hfault f hf]
    rfl
  · intro f hf
    rw [hfault f hf]
    exact ⟨rfl, decode_refuse f⟩
  · intro e
    rcases answered_or_failed bytes with ⟨doc, r, hbytes, hr, hzero⟩ | ⟨f, hf⟩
    · rw [hresult doc r hbytes hr hzero]
      show Reply.decode (Reply.encodeResult _) ≠ .error e
      rw [Reply.decode_encodeResult]
      exact fun h => nomatch h
    · rw [hfault f hf, decode_refuse]
      exact fun h => nomatch h

/-- **What a caller asks is what a caller is told.**  For all numbers and every divisor, the reply read from the
answer to the written request holds the multiples of the divisor, in order and with repetition, where multiples are
those of unbounded integers; a divisor zero is told as a fault, whatever the numbers. -/
theorem decode_answer_encode (numbers : List Int64) (divisor : Int64) :
    Reply.decode (answer (Request.encode { numbers, divisor })).body
      = if divisor = 0 then
          .ok (.fault "soap:Server".toList
            "Error processing request: division by zero: divisor must be non-zero".toList)
        else .ok (.result (numbers.filter fun n => decide (divisor.toInt ∣ n.toInt))) := by
  have hr : Request.decode (Request.encode { numbers, divisor }) = .ok { numbers, divisor } :=
    Request.decode_eq_ok_iff.2 ⟨Request.intListField_encode _, Request.intField_encode _⟩
  by_cases hzero : divisor = 0
  · have herror : multiplesIn (Request.encode { numbers, divisor }) = .error (.filter .divisionByZero) :=
      multiplesIn_eq_error_iff.2 (Or.inr ⟨_, hr, hzero, rfl⟩)
    rw [if_pos hzero, answer_of_error herror, decode_refuse]
    rfl
  · have hok : multiplesIn (Request.encode { numbers, divisor }) = .ok (numbers.filter (divides divisor)) :=
      multiplesIn_eq_ok_iff.2 ⟨_, hr, hzero, rfl⟩
    rw [if_neg hzero, answer_of_ok hok]
    exact Reply.decode_encodeResult _

end Service

end Multiples
