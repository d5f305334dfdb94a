import Multiples.Proofs.Responses

/-!
# What decides the answer to a body

The parts of a body are taken in order.  A pause may use up the time, a chunk may be too much, the body may stop
coming, or fail; the first of these events decides what is answered.  If there is none, the body is answered as a
whole.

* `Body.Event` — what a part brings about after the parts before it;
* `Body.Decides` — the first event of a body, or its end; `Body.read_eq_iff` — it is what reading the body gives;
* `Body.quiet_iff` — there is no event exactly if nothing is missing, the pauses are shorter than the time, and all
  bytes are within the size;
* `Body.read_bytewise` — how bytes are cut into chunks makes no difference;
* `Endpoint.whole_of_envelope_eq` — the answer to any bytes is only given to a body that was read whole;
* `Server.first_event_decides` — **the first event decides the answer to every document that is sent**;
* `Server.lastMoment_expired` — a pause that ends just as the time is up is one too long.
-/

namespace Multiples

namespace BodyPart

/-- The time that passes in a part. -/
def milliseconds : BodyPart → Nat
  | .pause ms => ms
  | _ => 0

/-- The bytes that a part carries. -/
def bytes : BodyPart → List UInt8
  | .chunk bytes => bytes
  | _ => []

/-- Whether anything can come after a part. -/
def goesOn : BodyPart → Bool
  | .stall => false
  | .failure _ => false
  | _ => true

/-- A part with its bytes one by one. -/
def bytewise : BodyPart → List BodyPart
  | .chunk bytes => bytes.map fun b => .chunk [b]
  | part => [part]

end BodyPart

namespace Body

/-- The milliseconds that pass in some parts. -/
def paused : List BodyPart → Nat
  | [] => 0
  | part :: parts => part.milliseconds + paused parts

/-- The bytes that some parts carry. -/
def sent (parts : List BodyPart) : List UInt8 := parts.flatMap BodyPart.bytes

/-- Some parts with their bytes one by one. -/
def bytewise (parts : List BodyPart) : List BodyPart := parts.flatMap BodyPart.bytewise

variable {maxSize limit : Nat} {before parts rest : List BodyPart} {part : BodyPart} {reading : Reading}

theorem paused_append (a b : List BodyPart) : paused (a ++ b) = paused a + paused b := by
  induction a with
  | nil =>
    rw [List.nil_append, paused]
    omega
  | cons part a ih =>
    rw [List.cons_append, paused, paused, ih]
    omega

theorem paused_singleton (part : BodyPart) : paused [part] = part.milliseconds := Nat.add_zero _

theorem sent_append (a b : List BodyPart) : sent (a ++ b) = sent a ++ sent b := List.flatMap_append

theorem sent_singleton (part : BodyPart) : sent [part] = part.bytes := List.append_nil _

/-! ### The first event -/

/-- What a part brings about after the parts before it: a pause uses up the time, the body stops coming, a chunk is
too much, or the body fails. -/
inductive Event (maxSize limit : Nat) (before : List BodyPart) : BodyPart → Reading → Prop
  | overdue {ms : Nat} (htime : limit ≤ paused before + ms) : Event maxSize limit before (.pause ms) .expired
  | stalled : Event maxSize limit before .stall .expired
  | tooLarge {bytes : List UInt8} (hsize : maxSize < (sent before ++ bytes).length) :
      Event maxSize limit before (.chunk bytes) (.broken "length limit exceeded".toList)
  | failed {reason : Text} : Event maxSize limit before (.failure reason) (.broken reason)

/-- No part brings anything about. -/
def Quiet (maxSize limit : Nat) (parts : List BodyPart) : Prop :=
  ∀ before part after reading, parts = before ++ part :: after → ¬ Event maxSize limit before part reading

/-- What decides a body: its first event, or else its end. -/
inductive Decides (maxSize limit : Nat) (parts : List BodyPart) : Reading → Prop
  | event {before after : List BodyPart} {part : BodyPart} {reading : Reading} (hparts : parts = before ++ part :: after)
      (hquiet : Quiet maxSize limit before) (hevent : Event maxSize limit before part reading) :
      Decides maxSize limit parts reading
  | ended (hquiet : Quiet maxSize limit parts) : Decides maxSize limit parts (.whole (sent parts))

theorem quiet_nil : Quiet maxSize limit [] := by
  intro before part after reading hsplit
  simp at hsplit

theorem Quiet.concat (hquiet : Quiet maxSize limit before)
    (hnone : ∀ reading, ¬ Event maxSize limit before part reading) : Quiet maxSize limit (before ++ [part]) := by
  intro front p after reading hsplit
  -- the part is the new one, or one of those before it
  rcases List.eq_nil_or_concat after with rfl | ⟨after, last, rfl⟩
  · obtain ⟨rfl, hpart⟩ := List.append_inj' hsplit rfl
    cases hpart
    exact hnone reading
  · rw [List.concat_eq_append, ← List.cons_append, ← List.append_assoc] at hsplit
    exact hquiet front p after reading (List.append_inj' hsplit rfl).1

/-! ### Reading part by part -/

/-- What reading comes to after some parts, with the rest still to come. -/
def readAfter (maxSize limit : Nat) (before rest : List BodyPart) : Reading :=
  readOn maxSize limit (paused before) (sent before) rest

theorem readAfter_of_event (h : Event maxSize limit before part reading) :
    readAfter maxSize limit before (part :: rest) = reading := by
  cases h with
  | overdue htime => exact if_pos htime
  | stalled => rfl
  | tooLarge hsize => exact if_pos hsize
  | failed => rfl

theorem readAfter_of_no_event (h : ∀ reading, ¬ Event maxSize limit before part reading) :
    readAfter maxSize limit before (part :: rest) = readAfter maxSize limit (before ++ [part]) rest := by
  have hnext : readAfter maxSize limit (before ++ [part]) rest
      = readOn maxSize limit (paused before + part.milliseconds) (sent before ++ part.bytes) rest := by
    rw [readAfter, paused_append, paused_singleton, sent_append, sent_singleton]
  rw [hnext, readAfter]
  cases part with
  | chunk bytes =>
    have hsize : ¬ maxSize < (sent before ++ bytes).length := fun hlarge => h _ (.tooLarge hlarge)
    rw [readOn, if_neg hsize]
    rfl
  | pause ms =>
    have htime : ¬ limit ≤ paused before + ms := fun hlate => h _ (.overdue hlate)
    rw [readOn, if_neg htime]
    show _ = readOn maxSize limit (paused before + ms) (sent before ++ []) rest
    rw [List.append_nil]
  | stall => exact absurd .stalled (h .expired)
  | failure reason => exact absurd .failed (h (.broken reason))

theorem readAfter_append (hquiet : Quiet maxSize limit (before ++ parts)) :
    readAfter maxSize limit before (parts ++ rest) = readAfter maxSize limit (before ++ parts) rest := by
  induction parts generalizing before with
  | nil => rw [List.append_nil, List.nil_append]
  | cons part parts ih =>
    have hnone := fun reading => hquiet before part parts reading rfl
    rw [List.append_cons] at hquiet
    rw [List.cons_append, readAfter_of_no_event hnone, ih hquiet, ← List.append_cons]

theorem decides_readAfter (hquiet : Quiet maxSize limit before) (rest : List BodyPart) :
    Decides maxSize limit (before ++ rest) (readAfter maxSize limit before rest) := by
  induction rest generalizing before with
  | nil =>
    rw [List.append_nil]
    exact .ended hquiet
  | cons part rest ih =>
    by_cases hevent : ∃ reading, Event maxSize limit before part reading
    · -- the first one, since the parts before it are quiet
      obtain ⟨reading, hevent⟩ := hevent
      rw [readAfter_of_event hevent]
      exact .event rfl hquiet hevent
    · have hnone := not_exists.1 hevent
      rw [readAfter_of_no_event hnone, List.append_cons]
      exact ih (hquiet.concat hnone)

/-- **Reading a body gives what decides it**, and nothing else decides it. -/
theorem read_eq_iff {seconds : Nat} :
    read maxSize seconds parts = reading ↔ Decides maxSize (1000 * seconds) parts reading := by
  show readAfter maxSize (1000 * seconds) [] parts = reading ↔ _
  constructor
  · intro hread
    rw [← hread]
    exact decides_readAfter quiet_nil parts
  · intro hdecides
    cases hdecides with
    | event hparts hquiet hevent =>
      rw [hparts, readAfter_append hquiet]
      exact readAfter_of_event hevent
    | ended hquiet =>
      have hwhole : readAfter maxSize (1000 * seconds) [] (parts ++ []) = .whole (sent parts) := readAfter_append hquiet
      rwa [List.append_nil] at hwhole

/-! ### Bodies without events -/

theorem bounds_concat (hnone : ∀ reading, ¬ Event maxSize limit before part reading)
    (htime : paused before < limit) (hsize : (sent before).length ≤ maxSize) :
    paused (before ++ [part]) < limit ∧ (sent (before ++ [part])).length ≤ maxSize := by
  rw [paused_append, paused_singleton, sent_append, sent_singleton]
  cases part with
  | chunk bytes => exact ⟨htime, Nat.le_of_not_lt fun hlarge => hnone _ (.tooLarge hlarge)⟩
  | pause ms =>
    refine ⟨Nat.lt_of_not_le fun hlate => hnone _ (.overdue hlate), ?_⟩
    show (sent before ++ []).length ≤ maxSize
    rwa [List.append_nil]
  | stall => exact absurd .stalled (hnone .expired)
  | failure reason => exact absurd .failed (hnone (.broken reason))

theorem Quiet.bounds (hquiet : Quiet maxSize limit (before ++ parts)) (htime : paused before < limit)
    (hsize : (sent before).length ≤ maxSize) :
    paused (before ++ parts) < limit ∧ (sent (before ++ parts)).length ≤ maxSize := by
  induction parts generalizing before with
  | nil =>
    rw [List.append_nil]
    exact ⟨htime, hsize⟩
  | cons part parts ih =>
    have hbounds := bounds_concat (fun reading => hquiet before part parts reading rfl) htime hsize
    rw [List.append_cons] at hquiet ⊢
    exact ih hquiet hbounds.1 hbounds.2

/-- Nothing is brought about exactly if the body goes on to its end, in less than the time, and within the size. -/
theorem quiet_iff (hlimit : 0 < limit) : Quiet maxSize limit parts
    ↔ (∀ part ∈ parts, part.goesOn = true) ∧ paused parts < limit ∧ (sent parts).length ≤ maxSize := by
  constructor
  · intro hquiet
    have hbounds : paused ([] ++ parts) < limit ∧ (sent ([] ++ parts)).length ≤ maxSize :=
      Quiet.bounds hquiet hlimit (Nat.zero_le _)
    refine ⟨fun part hpart => ?_, hbounds⟩
    obtain ⟨before, after, hsplit⟩ := List.append_of_mem hpart
    have hnone := fun reading => hquiet before part after reading hsplit
    cases part with
    | chunk bytes => rfl
    | pause ms => rfl
    | stall => exact absurd .stalled (hnone .expired)
    | failure reason => exact absurd .failed (hnone (.broken reason))
  · intro hbounds before part after reading hsplit hevent
    obtain ⟨hgoes, htime, hsize⟩ := hbounds
    rw [hsplit, List.append_cons] at hgoes htime hsize
    rw [paused_append, paused_append, paused_singleton] at htime
    rw [sent_append, sent_append, sent_singleton, List.length_append] at hsize
    cases hevent with
    | @overdue ms hlate =>
      have hms : (BodyPart.pause ms).milliseconds = ms := rfl
      omega
    | stalled => exact nomatch hgoes .stall (by simp)
    | @tooLarge bytes hlarge =>
      have hbytes : (BodyPart.chunk bytes).bytes = bytes := rfl
      rw [hbytes] at hsize
      omega
    | @failed reason => exact nomatch hgoes (.failure reason) (by simp)

/-- A body that goes on to its end is read as a whole. -/
theorem read_of_bounds {seconds : Nat} (hgoes : ∀ part ∈ parts, part.goesOn = true)
    (htime : paused parts < 1000 * seconds) (hsize : (sent parts).length ≤ maxSize) :
    read maxSize seconds parts = .whole (sent parts) := by
  have hlimit : 0 < 1000 * seconds := Nat.lt_of_le_of_lt (Nat.zero_le _) htime
  exact read_eq_iff.2 (.ended ((quiet_iff hlimit).2 ⟨hgoes, htime, hsize⟩))

/-! ### How bytes are cut into chunks -/

/-- A chunk can be sent byte by byte.  The bytes read before it have to be within the size: nothing is measured where
there is no byte. -/
theorem readOn_chunk {spent : Nat} {bytes : List UInt8} (more : List UInt8) (hsize : bytes.length ≤ maxSize) :
    readOn maxSize limit spent bytes ((BodyPart.chunk more).bytewise ++ rest)
      = readOn maxSize limit spent bytes (.chunk more :: rest) := by
  induction more generalizing bytes with
  | nil =>
    have hkept : ¬ maxSize < (bytes ++ []).length := by
      rw [List.append_nil]
      omega
    rw [readOn, if_neg hkept, List.append_nil]
    rfl
  | cons b more ih =>
    have hsplit : bytes ++ b :: more = bytes ++ [b] ++ more := List.append_cons ..
    have hstep : readOn maxSize limit spent bytes ((BodyPart.chunk (b :: more)).bytewise ++ rest)
        = readOn maxSize limit spent bytes (.chunk [b] :: ((BodyPart.chunk more).bytewise ++ rest)) := rfl
    rw [hstep, readOn, readOn, hsplit]
    by_cases hlarge : maxSize < (bytes ++ [b]).length
    · have hmore : maxSize < (bytes ++ [b] ++ more).length := by
        rw [List.length_append]
        omega
      rw [if_pos hlarge, if_pos hmore]
    · rw [if_neg hlarge, ih (Nat.le_of_not_lt hlarge), readOn]

theorem readOn_bytewise {spent : Nat} {bytes : List UInt8} (hsize : bytes.length ≤ maxSize) :
    readOn maxSize limit spent bytes (bytewise parts) = readOn maxSize limit spent bytes parts := by
  induction parts generalizing spent bytes with
  | nil => rfl
  | cons part parts ih =>
    have hcons : bytewise (part :: parts) = part.bytewise ++ bytewise parts := List.flatMap_cons
    rw [hcons]
    cases part with
    | chunk more =>
      rw [readOn_chunk more hsize, readOn, readOn]
      by_cases hlarge : maxSize < (bytes ++ more).length
      · rw [if_pos hlarge, if_pos hlarge]
      · rw [if_neg hlarge, if_neg hlarge, ih (Nat.le_of_not_lt hlarge)]
    | pause ms =>
      show readOn maxSize limit spent bytes (.pause ms :: bytewise parts) = _
      rw [readOn, readOn, ih hsize]
    | stall => rfl
    | failure reason => rfl

/-- **How bytes are cut into chunks makes no difference.** -/
theorem read_bytewise {seconds : Nat} : read maxSize seconds (bytewise parts) = read maxSize seconds parts :=
  readOn_bytewise (Nat.zero_le _)

end Body

/-! ### Answers and refusals -/

namespace Service

/-- How the messages begin that are told of bytes that were read. -/
def beginnings : List Text := ["invalid intege".toList, "division by ze".toList, "request body i".toList]

theorem beginning_of_firstFailure {bytes : List UInt8} {f : Failure} (h : FirstFailure bytes f) :
    f.message.take 14 ∈ beginnings := by
  cases h with
  | encoding =>
    show "request body i".toList ∈ beginnings
    decide
  | number =>
    show "invalid intege".toList ∈ beginnings
    decide
  | divisor =>
    show "invalid intege".toList ∈ beginnings
    decide
  | zero =>
    show "division by ze".toList ∈ beginnings
    decide

/-- What is answered to bytes is no refusal that begins otherwise. -/
theorem answerBytes_ne_refuse (bytes : List UInt8) {f : Failure} (hf : f.message.take 14 ∉ beginnings) :
    (answerBytes bytes).body ≠ (refuse f).body := by
  intro h
  rcases answered_or_failed bytes with ⟨doc, r, rfl, hr, hdivisor⟩ | ⟨g, hg⟩
  · rw [answerBytes_eq_result hr hdivisor] at h
    have hread := congrArg Reply.decode h
    rw [decode_refuse] at hread
    exact nomatch (Reply.decode_encodeResult _).symm.trans hread
  · rw [answerBytes_eq_refuse hg] at h
    rw [← message_eq_of_refuse_eq h] at hf
    exact hf (beginning_of_firstFailure hg)

end Service

namespace Endpoint

/-- The answer to any bytes is only given to a body that was read whole. -/
theorem whole_of_envelope_eq {reading : Reading} {bytes : List UInt8}
    (h : envelope reading = (Service.answerBytes bytes).body) : ∃ all, reading = .whole all := by
  cases reading with
  | whole all => exact ⟨all, rfl⟩
  | broken reason =>
    refine absurd h.symm (Service.answerBytes_ne_refuse bytes ?_)
    show "request body c".toList ∉ Service.beginnings
    decide
  | expired =>
    refine absurd h.symm (Service.answerBytes_ne_refuse bytes ?_)
    show "request timed ".toList ∉ Service.beginnings
    decide

end Endpoint

namespace Server

open Endpoint (document)

variable {s : Server} {q : HttpRequest}

/-- A body counts only by what reading it comes to. -/
theorem handle_congr_body (fresh path : Text) {parts : List BodyPart}
    (h : Body.read s.maxBodySize s.requestSecs parts = Body.read s.maxBodySize s.requestSecs q.body) :
    s.handle fresh path { q with body := parts } = s.handle fresh path q := by
  have hprocess : Endpoint.process s.maxBodySize s.requestSecs parts
      = Endpoint.process s.maxBodySize s.requestSecs q.body := by
    rw [Endpoint.process, Endpoint.process, h]
  have hpoint : s.atEndpoint { q with body := parts } = s.atEndpoint q := by
    rw [atEndpoint, atEndpoint, hprocess]
  have hroute : s.route path { q with body := parts } = s.route path q := by
    rw [route, route, hpoint]
  rw [handle, handle, hroute]

/-! ### Main statements -/

/-- How a document that is sent is answered.  The first event decides; bytes may be cut into chunks in any way; a body
that goes on to its end in less than the time is answered as a whole if it is not larger than the size; what is
answered to bytes, whichever they are, is only answered to such a body, and then to all of it; and where time ran out,
nothing depends on what was read. -/
structure IsDecided (maxSize limit : Nat) (s : Server) (fresh : Text) (q : HttpRequest) (h : Handled) : Prop where
  decided : ∃ reading, Body.Decides maxSize limit q.body reading
  first : ∀ reading, Body.Decides maxSize limit q.body reading →
    h.response = identified (RequestId.assigned fresh q.headers) (document 200 (Endpoint.envelope reading))
  recut : ∀ parts, Body.bytewise parts = Body.bytewise q.body → s.handle? fresh { q with body := parts } = some h
  whole : (∀ part ∈ q.body, part.goesOn = true) → Body.paused q.body < limit → (Body.sent q.body).length ≤ maxSize →
    h.response.body = (Service.answerBytes (Body.sent q.body)).body
  unabridged : ∀ bytes, h.response.body = (Service.answerBytes bytes).body →
    (∀ part ∈ q.body, part.goesOn = true) ∧ Body.paused q.body < limit ∧ (Body.sent q.body).length ≤ maxSize
      ∧ h.response.body = (Service.answerBytes (Body.sent q.body)).body
  silent : Body.Decides maxSize limit q.body .expired → ∀ parts, Body.Decides maxSize limit parts .expired →
    s.handle? fresh { q with body := parts } = some h

/-- **The first event decides the answer to every document that is sent**, whatever the parts of its body are, on
the server of any configuration with a literal path that can be routed and some time for a request. -/
theorem first_event_decides (c : Config) (fresh : Text) (q : HttpRequest) (hroutable : isRoutable c.service.path = true)
    (hliteral : PathPattern.isLiteral c.service.path = true) (htime : 0 < c.timeouts.requestSecs)
    (hmethod : q.method = "POST".toList)
    (hheaders : q.headers.all Header.isValid = true) (htarget : Target.path? q.target = some c.service.path) :
    ∃ s h, ofConfig? c = some s ∧ s.handle? fresh q = some h
      ∧ IsDecided c.listener.maxBodySize.toNat (1000 * c.timeouts.requestSecs.toNat) s fresh q h := by
  have hsecs := requestSecs_configured_ne_zero htime
  have hlimit : 0 < 1000 * c.timeouts.requestSecs.toNat := by
    have hpos : c.timeouts.requestSecs.toNat ≠ 0 := hsecs
    omega
  have htoken : Method.isToken q.method = true := by
    rw [hmethod]
    decide
  have hhandle : ∀ parts, (configured c).handle? fresh { q with body := parts }
      = some ((configured c).handle fresh (configured c).path { q with body := parts }) :=
    fun parts => handle?_eq_some htoken hheaders htarget
  have hdecides : Body.Decides c.listener.maxBodySize.toNat (1000 * c.timeouts.requestSecs.toNat) q.body
      (Body.read (configured c).maxBodySize (configured c).requestSecs q.body) := Body.read_eq_iff.1 rfl
  have hserved : (configured c).serves (configured c).path = true := serves_path hliteral
  have hresponse := response_post hsecs hserved fresh hmethod
  refine ⟨configured c, _, ofConfig?_eq_some hroutable, hhandle q.body, ⟨_, hdecides⟩, ?_, ?_, ?_, ?_, ?_⟩
  · intro reading hreading
    have hread : Body.read (configured c).maxBodySize (configured c).requestSecs q.body = reading :=
      Body.read_eq_iff.2 hreading
    rw [hresponse, hread]
  · intro parts hparts
    have hread : Body.read (configured c).maxBodySize (configured c).requestSecs parts
        = Body.read (configured c).maxBodySize (configured c).requestSecs q.body := by
      rw [← Body.read_bytewise, hparts, Body.read_bytewise]
    rw [hhandle, handle_congr_body fresh _ hread]
  · intro hgoes hpaused hsize
    have hread : Body.read (configured c).maxBodySize (configured c).requestSecs q.body = .whole (Body.sent q.body) :=
      Body.read_eq_iff.2 (.ended ((Body.quiet_iff hlimit).2 ⟨hgoes, hpaused, hsize⟩))
    rw [hresponse, hread]
    rfl
  · intro bytes hbytes
    -- no refusal looks like an answer to bytes, so the body was read whole, and what was read is what was sent
    rw [hresponse] at hbytes ⊢
    obtain ⟨all, hall⟩ := Endpoint.whole_of_envelope_eq hbytes
    rw [hall] at hdecides ⊢
    cases hdecides with
    | event hparts hquiet hevent => exact nomatch hevent
    | ended hquiet =>
      obtain ⟨hgoes, hpaused, hsize⟩ := (Body.quiet_iff hlimit).1 hquiet
      exact ⟨hgoes, hpaused, hsize, rfl⟩
  · intro hexpired parts hparts
    have hread : Body.read (configured c).maxBodySize (configured c).requestSecs parts
        = Body.read (configured c).maxBodySize (configured c).requestSecs q.body :=
      (Body.read_eq_iff.2 hparts).trans (Body.read_eq_iff.2 hexpired).symm
    rw [hhandle, handle_congr_body fresh _ hread]

/-- A server that has one second for a request, and room for forty-nine bytes. -/
def tight : Config := { listener := { maxBodySize := 49 }, timeouts := { requestSecs := 1 } }

/-- A document of as many bytes, the last of which comes in the last millisecond. -/
def punctual : HttpRequest where
  method := "POST".toList
  target := "/factorservice".toList
  body := [.pause 400, .chunk (Utf8.encode "<numbers>1, 2, 3, 4</numbers><divisor>2</divis".toList), .chunk [], .pause 599,
    .chunk (Utf8.encode "or>".toList)]

/-- It is answered as a whole. -/
theorem first_event_decides_punctual :
    ∃ s h, ofConfig? tight = some s ∧ s.handle? [] punctual = some h
      ∧ (Body.sent punctual.body).length = tight.listener.maxBodySize.toNat
      ∧ h.response.body = (Service.answerBytes (Body.sent punctual.body)).body := by
  obtain ⟨s, h, hs, hh, hdecided⟩ :=
    first_event_decides tight [] punctual (by decide) (by decide) (by decide) rfl (by decide) (by decide)
  exact ⟨s, h, hs, hh, by decide, hdecided.whole (by decide) (by decide) (by decide)⟩

/-- A server that has one second for a request. -/
def brief : Config := { timeouts := { requestSecs := 1 } }

/-- A document whose second half comes after one second. -/
def lastMoment : HttpRequest where
  method := "POST".toList
  target := "/factorservice".toList
  body := [.chunk (Utf8.encode "<numbers>2,3".toList), .pause 1000,
    .chunk (Utf8.encode "</numbers><divisor>2</divisor>".toList)]

/-- A pause that ends just as the time is up is one too long: although it does not exceed the time, nothing is missing
and nothing is too large, the document is refused. -/
theorem lastMoment_expired :
    ∃ s h, ofConfig? brief = some s ∧ s.handle? [] lastMoment = some h
      ∧ (∀ part ∈ lastMoment.body, part.goesOn = true)
      ∧ Body.paused lastMoment.body ≤ 1000 * brief.timeouts.requestSecs.toNat
      ∧ (Body.sent lastMoment.body).length ≤ brief.listener.maxBodySize.toNat
      ∧ h.response.body = (Service.refuse .timeout).body
      ∧ h.response.body ≠ (Service.answerBytes (Body.sent lastMoment.body)).body := by
  have hread : Body.read (configured brief).maxBodySize (configured brief).requestSecs lastMoment.body = .expired := by
    decide
  have hmethod : lastMoment.method = Method.post := rfl
  have htarget : Target.path? lastMoment.target = some (configured brief).path := by decide
  have hserved : (configured brief).serves (configured brief).path = true := by decide
  have hresponse := response_post (by decide) hserved [] hmethod
  rw [hread] at hresponse
  refine ⟨configured brief, _, ofConfig?_eq_some (by decide), handle?_eq_some (by decide) (by decide) htarget,
    by decide, by decide, by decide, ?_⟩
  rw [hresponse]
  refine ⟨rfl, fun hbody => ?_⟩
  have henvelope : Endpoint.envelope .expired = (Service.answerBytes (Body.sent lastMoment.body)).body := hbody
  obtain ⟨all, hall⟩ := Endpoint.whole_of_envelope_eq henvelope
  exact nomatch hall

end Server

end Multiples
