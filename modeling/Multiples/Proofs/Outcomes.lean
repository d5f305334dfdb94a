import Multiples.Client
import Multiples.Proofs.Grammar
import Multiples.Proofs.Occurrences

/-!
# What comes of a call

A server that is not trusted may send anything: replies that break off, documents with both a fault and a result, tags
that are never closed.  Each reply falls into exactly one class, and only those of one class are lists.

* `Envelope.Encloses`, `Envelope.FieldText` — the first field of a name with its content, which may be empty, and the
  text of a field, which is empty if there is none;
* `Client.Tells` — what a document tells one who asked for multiples, class by class;
* `Client.exists_tells`, `Client.reading_eq_iff` — **every document is in exactly one class**, and so it is read;
* `Client.Received`, `Client.BrokenOff` — replies that arrive as a whole, and those that do not;
* `Client.find_outcome` — the main statement: transport comes before status, status before fault, fault before result.
-/

namespace Multiples

namespace Envelope

open Markup (openTag closeTag)

variable {doc tag content text : Text}

/-! ### Fields that may be empty -/

theorem hasTag_iff : hasTag doc tag = true ↔ openTag tag <:+: doc := by
  rw [hasTag, Text.occurs, Option.isSome_iff_ne_none, ne_eq, Text.cut?_eq_none_iff]
  constructor
  · intro h
    simp only [not_forall, ne_eq, Decidable.not_not] at h
    obtain ⟨before, after, hdoc⟩ := h
    exact ⟨before, after, by rw [hdoc, List.append_assoc]⟩
  · rintro ⟨before, after, rfl⟩ h
    exact h before after (by rw [List.append_assoc])

theorem hasTag_eq_false_iff : hasTag doc tag = false ↔ ¬ openTag tag <:+: doc := by
  rw [← hasTag_iff, Bool.not_eq_true]

/-- The first opening tag of a name is closed by a later closing tag, and this is what stands between the two. -/
def Encloses (doc tag content : Text) : Prop :=
  ∃ before after, doc = before ++ (openTag tag ++ (content ++ (closeTag tag ++ after)))
    ∧ Text.ClearBefore before.length (openTag tag) doc
    ∧ Text.ClearBefore content.length (closeTag tag) (content ++ (closeTag tag ++ after))

theorem Encloses.hasTag (h : Encloses doc tag content) : hasTag doc tag = true := by
  obtain ⟨before, after, hdoc, -, -⟩ := h
  exact hasTag_iff.2 ⟨before, _, by rw [hdoc, List.append_assoc]⟩

/-- A field without content counts as absent. -/
theorem Encloses.field? (h : Encloses doc tag content) :
    field? doc tag = if content = [] then none else some content := by
  obtain ⟨before, after, hdoc, hfirst, hnext⟩ := h
  exact field?_of_cut (Text.cut?_eq_some_iff.2 ⟨hdoc, hfirst⟩) (Text.cut?_eq_some_iff.2 ⟨rfl, hnext⟩)

theorem Encloses.field?_of_ne_nil (h : Encloses doc tag content) (hcontent : content ≠ []) :
    Envelope.field? doc tag = some content := by
  rw [h.field?, if_neg hcontent]

theorem encloses_of_holds (h : Holds doc tag content) : Encloses doc tag content := by
  obtain ⟨before, after, hdoc, -, hfirst, hnext⟩ := h
  exact ⟨before, after, hdoc, hfirst, hnext⟩

theorem field?_of_not_encloses (h : ∀ content, ¬ Encloses doc tag content) : field? doc tag = none :=
  Option.eq_none_iff_forall_ne_some.2 fun content hsome =>
    h content (encloses_of_holds (field?_eq_some_iff_holds.1 hsome))

/-- The text of the first field of a name, with its references resolved, or none if the field is empty, is not closed or
does not occur. -/
def FieldText (doc tag text : Text) : Prop :=
  (∃ content, Holds doc tag content ∧ text = Markup.unescape content)
    ∨ ((∀ content, ¬ Holds doc tag content) ∧ text = [])

theorem fieldText_iff : FieldText doc tag text ↔ (textField? doc tag).getD [] = text := by
  rw [FieldText, textField?]
  simp only [← field?_eq_some_iff_holds]
  cases field? doc tag <;> simp [eq_comm]

end Envelope

namespace Client

open Markup (openTag)
open Reply (resultTag faultCodeTag faultMessageTag)
open Envelope (Encloses FieldText)
open Decimal (Numeral)

/-! ### What a document tells -/

/-- What a document tells one who asked for multiples.  If it opens a fault message anywhere, it is a fault; else, if
it opens no result, there is none; else the first result decides, and a list of numbers is all of its tokens. -/
inductive Tells (doc : Text) : Except ClientError (List Int64) → Prop
  | fault {code message : Text} (hfault : openTag faultMessageTag <:+: doc) (hcode : FieldText doc faultCodeTag code)
      (hmessage : FieldText doc faultMessageTag message) : Tells doc (.error (.fault code message))
  | missing (hfault : ¬ openTag faultMessageTag <:+: doc) (hresult : ¬ openTag resultTag <:+: doc) :
      Tells doc (.error (.decode .missingResult))
  | unclosed (hfault : ¬ openTag faultMessageTag <:+: doc) (hresult : openTag resultTag <:+: doc)
      (hopen : ∀ content, ¬ Encloses doc resultTag content) : Tells doc (.ok [])
  | empty (hfault : ¬ openTag faultMessageTag <:+: doc) (hresult : Encloses doc resultTag []) : Tells doc (.ok [])
  | numbers {content : Text} {ns : List Int64} (hfault : ¬ openTag faultMessageTag <:+: doc)
      (hresult : Encloses doc resultTag content) (hcontent : content ≠ [])
      (hns : List.Forall₂ Numeral ((Markup.unescape content).cells ',') ns) : Tells doc (.ok ns)
  | notNumber {content token : Text} {before after : List Text} (hfault : ¬ openTag faultMessageTag <:+: doc)
      (hresult : Encloses doc resultTag content) (hcontent : content ≠ [])
      (hcells : (Markup.unescape content).cells ',' = before ++ token :: after)
      (hbefore : ∀ t ∈ before, ∃ n, Numeral t n) (htoken : ∀ n, ¬ Numeral token n) :
      Tells doc (.error (.decode (.invalidNumber resultTag token.trim)))

/-- What a caller makes of the text of a reply. -/
def reading (doc : Text) : Except ClientError (List Int64) :=
  match Reply.decode doc with
  | .ok (.result numbers) => .ok numbers
  | .ok (.fault code message) => .error (.fault code message)
  | .error e => .error (.decode e)

variable {doc : Text} {o : Except ClientError (List Int64)}

/-- Without a fault, the result is read. -/
theorem reading_of_result (hfault : ¬ openTag faultMessageTag <:+: doc)
    (hresult : Envelope.hasTag doc resultTag = true) : reading doc = match Envelope.intListField doc resultTag [] with
      | .ok ns => .ok ns
      | .error e => .error (.decode e) := by
  rw [reading, Reply.decode_of_no_fault (Envelope.hasTag_eq_false_iff.2 hfault), if_pos hresult]
  cases Envelope.intListField doc resultTag [] <;> rfl

/-- A document is read as what it tells. -/
theorem reading_of_tells (h : Tells doc o) : reading doc = o := by
  cases h with
  | fault hfault hcode hmessage =>
    rw [reading, Reply.decode_of_fault (Envelope.hasTag_iff.2 hfault), Envelope.fieldText_iff.1 hcode,
      Envelope.fieldText_iff.1 hmessage]
  | missing hfault hresult =>
    rw [reading, Reply.decode_of_no_fault (Envelope.hasTag_eq_false_iff.2 hfault),
      if_neg (Bool.eq_false_iff.1 (Envelope.hasTag_eq_false_iff.2 hresult))]
  | unclosed hfault hresult hopen =>
    rw [reading_of_result hfault (Envelope.hasTag_iff.2 hresult),
      Envelope.intListField_of_absent (Envelope.field?_of_not_encloses hopen)]
  | empty hfault hresult =>
    have habsent : Envelope.field? doc resultTag = none := by rw [hresult.field?, if_pos rfl]
    rw [reading_of_result hfault hresult.hasTag, Envelope.intListField_of_absent habsent]
  | numbers hfault hresult hcontent hns =>
    rw [reading_of_result hfault hresult.hasTag,
      Envelope.intListField_of_field? (hresult.field?_of_ne_nil hcontent), Envelope.readInts_eq_ok_iff.2 hns]
  | notNumber hfault hresult hcontent hcells hbefore htoken =>
    have hall := List.all_eq_true.2 fun t ht => Envelope.isInteger_iff.2 (hbefore t ht)
    have hbad := Envelope.isInteger_eq_false_iff.2 htoken
    rw [reading_of_result hfault hresult.hasTag,
      Envelope.intListField_of_field? (hresult.field?_of_ne_nil hcontent),
      Envelope.readInts_eq_error_iff.2 ⟨_, _, _, hcells, hall, hbad, rfl⟩]

/-- Every document tells something: what its tags and tokens are decides the class. -/
theorem exists_tells (doc : Text) : ∃ o, Tells doc o := by
  by_cases hfault : openTag faultMessageTag <:+: doc
  · exact ⟨_, .fault hfault (Envelope.fieldText_iff.2 rfl) (Envelope.fieldText_iff.2 rfl)⟩
  by_cases hresult : openTag resultTag <:+: doc
  · by_cases hclosed : ∃ content, Encloses doc resultTag content
    · obtain ⟨content, hclosed⟩ := hclosed
      by_cases hcontent : content = []
      · subst hcontent
        exact ⟨_, .empty hfault hclosed⟩
      -- the tokens are all numerals, or there is a first one that is none
      cases hread : Envelope.readInts resultTag ((Markup.unescape content).cells ',') with
      | ok ns => exact ⟨_, .numbers hfault hclosed hcontent (Envelope.readInts_eq_ok_iff.1 hread)⟩
      | error e =>
        obtain ⟨before, token, after, hcells, hall, hbad, -⟩ := Envelope.readInts_eq_error_iff.1 hread
        refine ⟨_, .notNumber hfault hclosed hcontent hcells (fun t ht => ?_)
          (Envelope.isInteger_eq_false_iff.1 hbad)⟩
        exact Envelope.isInteger_iff.1 (List.all_eq_true.1 hall t ht)
    · exact ⟨_, .unclosed hfault hresult (not_exists.1 hclosed)⟩
  · exact ⟨_, .missing hfault hresult⟩

/-- A document that tells a list opens a result, and no fault message. -/
theorem Tells.of_list {ns : List Int64} (h : Tells doc (.ok ns)) :
    ¬ openTag faultMessageTag <:+: doc ∧ openTag resultTag <:+: doc := by
  cases h with
  | unclosed hfault hresult _ => exact ⟨hfault, hresult⟩
  | empty hfault hresult => exact ⟨hfault, Envelope.hasTag_iff.1 hresult.hasTag⟩
  | numbers hfault hresult _ _ => exact ⟨hfault, Envelope.hasTag_iff.1 hresult.hasTag⟩

/-- **Every document tells exactly one thing**, and it is what is read. -/
theorem reading_eq_iff : reading doc = o ↔ Tells doc o := by
  constructor
  · rintro rfl
    obtain ⟨o, htells⟩ := exists_tells doc
    rwa [reading_of_tells htells]
  · exact reading_of_tells

/-! ### What arrives -/

/-- A reply that has arrived as a whole, with its status and its body; some statuses say that there is no body. -/
inductive Received (arrival : Arrival) : Nat → List UInt8 → Prop
  | whole {status : Nat} {body : List UInt8} (hlast : lastArrival arrival = .reply status body 0)
      (hbody : Status.isBodiless status = false) : Received arrival status body
  | bodiless {status : Nat} {bytes : List UInt8} {missing : Nat}
      (hlast : lastArrival arrival = .reply status bytes missing) (hbody : Status.isBodiless status = true) : Received arrival status []

/-- A reply that breaks off: none comes, or its body is cut short. -/
inductive BrokenOff (arrival : Arrival) : Prop
  | nothing (hlast : lastArrival arrival = .nothing)
  | short {status : Nat} {bytes : List UInt8} {missing : Nat}
      (hlast : lastArrival arrival = .reply status bytes missing) (hbody : Status.isBodiless status = false)
      (hmissing : missing ≠ 0)

variable {arrival : Arrival} {status : Nat} {body : List UInt8}

/-- A final reply is the last one to arrive. -/
theorem lastArrival_final {bytes : List UInt8} {missing : Nat} (hlow : 200 ≤ status) (hhigh : status ≤ 999) :
    lastArrival (.reply status bytes missing) = .reply status bytes missing := by
  have hvalid : Status.isValid status = true := by simp [Status.isValid, hhigh]; omega
  have hfinal : Status.isInterim status = false := by simp [Status.isInterim]; omega
  simp [lastArrival, hvalid, hfinal]

theorem received_or_brokenOff (arrival : Arrival) :
    (∃ status body, Received arrival status body) ∨ BrokenOff arrival := by
  cases hlast : lastArrival arrival with
  | nothing => exact .inr (.nothing hlast)
  | reply status bytes missing =>
    cases hbody : Status.isBodiless status with
    | true => exact .inl ⟨status, [], .bodiless hlast hbody⟩
    | false =>
      by_cases hmissing : missing = 0
      · subst hmissing
        exact .inl ⟨status, bytes, .whole hlast hbody⟩
      · exact .inr (.short hlast hbody hmissing)

theorem complete_of_received (url : Url) (h : Received arrival status body) :
    complete url arrival = .ok (status, body) := by
  cases h with
  | whole hlast hbody => simp [complete, hlast, hbody]
  | bodiless hlast hbody => simp [complete, hlast, hbody]

theorem complete_of_brokenOff (url : Url) (h : BrokenOff arrival) :
    ∃ e, complete url arrival = .error (.transport e) := by
  cases h with
  | nothing hlast => exact ⟨.noReply url, by simp [complete, hlast]⟩
  | short hlast hbody hmissing => exact ⟨.cutOff, by simp [complete, hlast, hbody, hmissing]⟩

theorem isSuccess_iff : Status.isSuccess status = true ↔ 200 ≤ status ∧ status ≤ 299 := by
  simp [Status.isSuccess]
  omega

/-- The status of a whole reply counts before its text. -/
theorem textOf_of_received (url : Url) (h : Received arrival status body) : textOf url arrival
    = if 200 ≤ status ∧ status ≤ 299 then .ok (ByteOrder.decode body)
      else .error (.status status (ByteOrder.decode body)) := by
  rw [textOf, complete_of_received url h]
  show (if Status.isSuccess status = true then Except.ok _ else Except.error _) = _
  simp only [isSuccess_iff]

theorem numbersOf_of_received (url : Url) (h : Received arrival status body) : numbersOf url arrival
    = if 200 ≤ status ∧ status ≤ 299 then reading (ByteOrder.decode body)
      else .error (.status status (ByteOrder.decode body)) := by
  rw [numbersOf, textOf_of_received url h]
  split <;> rfl

theorem numbersOf_of_brokenOff (url : Url) (h : BrokenOff arrival) :
    ∃ e, numbersOf url arrival = .error (.transport e) := by
  obtain ⟨e, hcomplete⟩ := complete_of_brokenOff url h
  exact ⟨e, by rw [numbersOf, textOf, hcomplete]; rfl⟩

/-! ### Main statement -/

/-- **No failed call comes to a list.**  Whatever a server answers to one who asks for multiples, either a whole reply
arrives or the reply breaks off, which is a transport error.  A whole reply with a status other than success is an error
with that status and the text; else the text tells one thing, and that is what the call comes to.  So a call comes to a
list only through a whole reply of success that opens no fault message and opens a result. -/
theorem find_outcome {σ : Type} (answer : σ → Url → HttpRequest → Arrival × σ) (s : σ) {endpoint : Text} {url : Url}
    (hread : (Url.parse? endpoint).map Url.anonymous = some url) (hasked : canAsk url = true) (r : Request) :
    let arrival := (answer s url (postRequest url r.encode)).1
    let outcome := (Dialog.through answer s (find endpoint r)).1
    ((∃ status body, Received arrival status body) ∨ BrokenOff arrival)
    ∧ (BrokenOff arrival → ∃ e, outcome = .error (.transport e))
    ∧ (∀ status body, Received arrival status body → ¬ (200 ≤ status ∧ status ≤ 299) →
        outcome = .error (.status status (ByteOrder.decode body)))
    ∧ (∀ status body, Received arrival status body → 200 ≤ status ∧ status ≤ 299 →
        ∀ o, outcome = o ↔ Tells (ByteOrder.decode body) o)
    ∧ ∀ ns, outcome = .ok ns → ∃ status body, Received arrival status body ∧ 200 ≤ status ∧ status ≤ 299
        ∧ ¬ openTag faultMessageTag <:+: ByteOrder.decode body ∧ openTag resultTag <:+: ByteOrder.decode body := by
  intro arrival outcome
  have houtcome : outcome = numbersOf url arrival := through_once hread hasked
  have hstatus : ∀ status body, Received arrival status body → ¬ (200 ≤ status ∧ status ≤ 299) →
      outcome = .error (.status status (ByteOrder.decode body)) := by
    intro status body hreceived hfailure
    rw [houtcome, numbersOf_of_received url hreceived, if_neg hfailure]
  have htells : ∀ status body, Received arrival status body → 200 ≤ status ∧ status ≤ 299 →
      ∀ o, outcome = o ↔ Tells (ByteOrder.decode body) o := by
    intro status body hreceived hsuccess o
    rw [houtcome, numbersOf_of_received url hreceived, if_pos hsuccess]
    exact reading_eq_iff
  refine ⟨received_or_brokenOff arrival, fun hbroken => ?_, hstatus, htells, fun ns hns => ?_⟩
  · rw [houtcome]
    exact numbersOf_of_brokenOff url hbroken
  · rcases received_or_brokenOff arrival with ⟨status, body, hreceived⟩ | hbroken
    · by_cases hsuccess : 200 ≤ status ∧ status ≤ 299
      · refine ⟨status, body, hreceived, hsuccess.1, hsuccess.2, ?_⟩
        exact ((htells status body hreceived hsuccess _).1 hns).of_list
      · rw [hstatus status body hreceived hsuccess] at hns
        cases hns
    · obtain ⟨e, he⟩ := numbersOf_of_brokenOff url hbroken
      rw [houtcome, he] at hns
      cases hns

/-- A document with a list, and behind it a fault whose message is not closed. -/
def contradictory : Text := "<result>1,2</result><faultcode>a&amp;b</faultcode><faultstring>".toList

/-- It comes to the fault; with another status, to that status; and with a byte missing, to a transport error. -/
theorem find_of_contradictory :
    let endpoint : Text := "http://127.0.0.1:8080/factorservice".toList
    let bytes := Utf8.encode contradictory
    let outcomeOf (arrival : Arrival) := (Dialog.through (fun _ _ _ => (arrival, ())) () (find endpoint ⟨[1, 2], 1⟩)).1
    outcomeOf (.reply 200 bytes 0) = .error (.fault "a&b".toList [])
    ∧ outcomeOf (.reply 500 bytes 0) = .error (.status 500 contradictory)
    ∧ ∃ e, outcomeOf (.reply 200 bytes 1) = .error (.transport e) := by
  intro endpoint bytes outcomeOf
  obtain ⟨url, hread, hasked⟩ : ∃ url, (Url.parse? endpoint).map Url.anonymous = some url ∧ canAsk url = true := by
    refine ⟨{
      scheme := .http
      authority := some { host := "127.0.0.1".toList, port := some 8080 }
      path := "/factorservice".toList }, ?_, ?_⟩ <;> decide +kernel
  have hdecode : ByteOrder.decode bytes = contradictory := by decide +kernel
  have htells : Tells contradictory (.error (.fault "a&b".toList [])) :=
    .fault ⟨"<result>1,2</result><faultcode>a&amp;b</faultcode>".toList, [], by decide⟩
      (Envelope.fieldText_iff.2 (by decide)) (Envelope.fieldText_iff.2 (by decide))
  have hwhole : ∀ status, 200 ≤ status → status ≤ 999 → Status.isBodiless status = false →
      Received (.reply status bytes 0) status bytes := fun status hlow hhigh hbody =>
    .whole (lastArrival_final hlow hhigh) hbody
  refine ⟨?_, ?_, ?_⟩
  · have hcall := find_outcome (fun _ _ _ => (.reply 200 bytes 0, ())) () hread hasked ⟨[1, 2], 1⟩
    refine (hcall.2.2.2.1 200 bytes (hwhole 200 (by decide) (by decide) (by decide)) (by decide) _).2 ?_
    rwa [hdecode]
  · have hcall := find_outcome (fun _ _ _ => (.reply 500 bytes 0, ())) () hread hasked ⟨[1, 2], 1⟩
    rw [← hdecode]
    exact hcall.2.2.1 500 bytes (hwhole 500 (by decide) (by decide) (by decide)) (by decide)
  · have hcall := find_outcome (fun _ _ _ => (.reply 200 bytes 1, ())) () hread hasked ⟨[1, 2], 1⟩
    exact hcall.2.1 (.short (lastArrival_final (by decide) (by decide)) (by decide) (by decide))

end Client

end Multiples
