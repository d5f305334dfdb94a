import Multiples.Proofs.Routing
import Multiples.Text.Hex

/-!
# One identifier for a request and its answer

A request without an identifier is given one before anything else sees it, and whatever the answer is, it leaves with
the identifier of its request.  No answer has an identifier of its own, so it has exactly that one.

* `RequestId.marked`, `RequestId.propagated` — the two layers; `Server.layered` — a request goes through the first one,
  is answered, and the answer goes through the second one; `Server.layered_eq` — **the server does the same**;
* `RequestId.first?_marked` — the identifier that the handler finds is the one that the answer gets;
* `RequestId.mem_ofRandom` — identifiers that are made have hexadecimal digits and dashes;
* `RequestId.shown_eq_unknown_iff` — what is shown of an identifier is its text, or a word if it has none;
* `Server.identified_once` — **every answer has one identifier**, the first one that was sent or else the one that was
  made, and the handler sees the same.
-/

namespace Multiples

namespace Header

theorem first?_eq_head? (name : Text) (headers : List Header) : first? name headers = (values name headers).head? := by
  rw [first?, values, List.head?_map, List.head?_filter]

end Header

namespace RequestId

variable {fresh : Text} {headers : List Header} {id : List UInt8}

/-! ### The two layers -/

/-- The headers of a request with an identifier: as they are if there is one among them, and else with a fresh one. -/
def marked (fresh : Text) (headers : List Header) : List Header :=
  match Header.first? headerName headers with
  | some _ => headers
  | none => headers ++ [{ name := headerName, value := Utf8.encode fresh }]

/-- A response with the identifier among the headers of its request, unless it has one already. -/
def propagated (asked : List Header) (r : HttpResponse) : HttpResponse :=
  match Header.first? headerName r.headers with
  | some _ => r
  | none =>
    match Header.first? headerName asked with
    | some id => Server.identified id r
    | none => r

theorem values_own (id : List UInt8) : Header.values headerName [{ name := headerName, value := id }] = [id] := rfl

/-- A request has the identifier that it is assigned. -/
theorem first?_marked (fresh : Text) (headers : List Header) :
    Header.first? headerName (marked fresh headers) = some (assigned fresh headers) := by
  cases hfirst : Header.first? headerName headers with
  | some id => rw [marked, hfirst, assigned, hfirst, Option.getD_some]
  | none =>
    have hnone : (Header.values headerName headers).head? = none := by
      rw [← Header.first?_eq_head?, hfirst]
    rw [marked, hfirst, assigned, hfirst, Option.getD_none, Header.first?_eq_head?, Header.values_append,
      List.head?_eq_none_iff.1 hnone, values_own]
    rfl

theorem propagated_marked {r : HttpResponse} (hown : Header.values headerName r.headers = []) :
    propagated (marked fresh headers) r = Server.identified (assigned fresh headers) r := by
  have hnone : Header.first? headerName r.headers = none := by
    rw [Header.first?_eq_head?, hown, List.head?_nil]
  rw [propagated, hnone, first?_marked]

/-- What is assigned is the first identifier that was sent, or else the fresh one. -/
theorem assigned_eq (fresh : Text) (headers : List Header) :
    assigned fresh headers = (Header.values headerName headers).headD (Utf8.encode fresh) := by
  rw [assigned, Header.first?_eq_head?, List.headD_eq_head?_getD]

/-! ### Identifiers that are made -/

theorem mem_hexDigits {bytes : List UInt8} {c : Char} (h : c ∈ hexDigits bytes) : ∃ d < 16, c = Nat.digitChar d := by
  obtain ⟨b, -, hb⟩ := List.mem_flatMap.1 h
  rcases List.mem_append.1 hb with hhigh | hlow
  · exact Hex.exists_of_mem_toDigits hhigh
  · exact Hex.exists_of_mem_toDigits hlow

/-- An identifier that is made has digits and dashes. -/
theorem mem_ofRandom {bytes : List UInt8} {c : Char} (h : c ∈ ofRandom bytes) :
    c = '-' ∨ ∃ d < 16, c = Nat.digitChar d := by
  rcases Text.mem_glue h with hdash | ⟨group, hgroup, hc⟩
  · exact Or.inl (List.mem_singleton.1 hdash)
  · have hpart : ∃ bytes start length, group = ((hexDigits bytes).drop start).take length := by
      simp only [List.mem_cons, List.not_mem_nil, or_false] at hgroup
      rcases hgroup with rfl | rfl | rfl | rfl | rfl
      · exact ⟨_, 0, 8, rfl⟩
      · exact ⟨_, 8, 4, rfl⟩
      · exact ⟨_, 12, 4, rfl⟩
      · exact ⟨_, 16, 4, rfl⟩
      · exact ⟨_, 20, 12, rfl⟩
    obtain ⟨_, _, _, rfl⟩ := hpart
    exact Or.inr (mem_hexDigits (List.mem_of_mem_drop (List.mem_of_mem_take hc)))

theorem ofRandom_ne_unknown (bytes : List UInt8) : ofRandom bytes ≠ "unknown".toList := by
  intro hsame
  have hfirst : 'u' ∈ ofRandom bytes := by
    rw [hsame]
    decide
  have hall : ∀ d < 16, 'u' ≠ Nat.digitChar d := by decide
  rcases mem_ofRandom hfirst with hdash | ⟨d, hd, hdigit⟩
  · exact absurd hdash (by decide)
  · exact hall d hd hdigit

/-! ### Identifiers as they are shown -/

theorem isVisible_iff {b : UInt8} : isVisible b = true ↔ b.toNat = 9 ∨ 32 ≤ b.toNat ∧ b.toNat < 127 := by
  rw [isVisible, Bool.or_eq_true, Bool.and_eq_true, decide_eq_true_eq, decide_eq_true_eq, decide_eq_true_eq,
    ← UInt8.toNat_inj, UInt8.le_iff_toNat_le, UInt8.lt_iff_toNat_lt]
  rfl

/-- Visible bytes are the encoding of their text. -/
theorem encode_visible (h : id.all isVisible = true) : Utf8.encode (id.map fun b => Char.ofNat b.toNat) = id := by
  induction id with
  | nil => rfl
  | cons b id ih =>
    rw [List.all_cons, Bool.and_eq_true] at h
    have hb := isVisible_iff.1 h.1
    have hvalid : b.toNat.isValidChar := Or.inl (by omega)
    have hchar : (Char.ofNat b.toNat).toNat = b.toNat := by
      rw [Char.ofNat, dif_pos hvalid]
      rfl
    have hascii : (Char.ofNat b.toNat).toNat < 128 := by omega
    rw [List.map_cons, Utf8.encode_ascii hascii, hchar, ih h.2, UInt8.ofNat_toNat]

/-- The encoding of visible characters is visible. -/
theorem isVisible_encode {s : Text} (h : ∀ c ∈ s, 32 ≤ c.toNat ∧ c.toNat < 127) :
    (Utf8.encode s).all isVisible = true := by
  induction s with
  | nil => rfl
  | cons c s ih =>
    have hc := h c List.mem_cons_self
    have hfirst : isVisible (UInt8.ofNat c.toNat) = true := by
      have hsmall : (UInt8.ofNat c.toNat).toNat = c.toNat := UInt8.toNat_ofNat_of_lt' (Nat.lt_trans hc.2 (by decide))
      rw [isVisible_iff, hsmall]
      exact Or.inr hc
    rw [Utf8.encode_ascii (by omega), List.all_cons, hfirst, ih fun d hd => h d (List.mem_cons_of_mem c hd)]
    rfl

theorem isVisible_ofRandom (bytes : List UInt8) : (Utf8.encode (ofRandom bytes)).all isVisible = true := by
  refine isVisible_encode fun c hc => ?_
  have hall : ∀ d < 16, 32 ≤ (Nat.digitChar d).toNat ∧ (Nat.digitChar d).toNat < 127 := by decide
  rcases mem_ofRandom hc with rfl | ⟨d, hd, rfl⟩
  · decide
  · exact hall d hd

section Shown

variable (hfirst : Header.first? headerName headers = some id)

include hfirst

theorem shown_of_visible (h : id.all isVisible = true) : Utf8.encode (shown headers) = id := by
  rw [shown, hfirst]
  simp only [if_pos h]
  exact encode_visible h

/-- The word is shown where there is nothing else to show, or where it is the identifier. -/
theorem shown_eq_unknown_iff :
    shown headers = "unknown".toList ↔ id.all isVisible = false ∨ id = Utf8.encode "unknown".toList := by
  cases hvisible : id.all isVisible with
  | false =>
    have hword : shown headers = "unknown".toList := by
      rw [shown, hfirst]
      simp only [hvisible, Bool.false_eq_true, if_false]
    exact iff_of_true hword (Or.inl rfl)
  | true =>
    have hshown := shown_of_visible hfirst hvisible
    constructor
    · intro hword
      right
      rw [← hshown, hword]
    · intro hcases
      rcases hcases with hnot | hword
      · cases hnot
      · exact Utf8.encode_inj (hshown.trans hword)

end Shown

end RequestId

namespace Server

variable {s : Server} {path method : Text} {r : HttpResponse}

/-! ### Answers without an identifier -/

/-- Nothing that comes of a request has an identifier of its own: a document, a refusal, an answer that came too late,
and one that nothing was found. -/
theorem values_route (s : Server) (path : Text) (q : HttpRequest) :
    Header.values RequestId.headerName (Endpoint.readableHandled (s.route path q)).response.headers = [] := by
  rw [route]
  split
  · -- there is no time at all, so this is the fault that readers get
    rfl
  split
  · rw [atEndpoint]
    split
    · rfl
    split
    · rw [Endpoint.readable_process]
      rfl
    · rfl
  · rfl

/-- The outermost layer adds no identifier either. -/
theorem values_finish (hown : Header.values RequestId.headerName r.headers = []) :
    Header.values RequestId.headerName (s.finish path method r).headers = [] := by
  have hmore {h : Header} (hname : Header.named RequestId.headerName h = false) :
      Header.values RequestId.headerName (r.headers ++ [h]) = [] := by
    rw [Header.values_append, hown, Header.values_singleton_of_not_named hname, List.append_nil]
  rw [finish]
  split
  · split
    · exact hown
    · exact hmore rfl
  split
  · exact hown
  split
  · exact hmore rfl
  · exact hown

theorem values_answer (s : Server) (path : Text) (q : HttpRequest) :
    Header.values RequestId.headerName
      (s.finish path q.method (Endpoint.readableHandled (s.route path q)).response).headers = [] :=
  values_finish (values_route s path q)

/-! ### Layer by layer -/

/-- Handles a valid request layer by layer: it is given an identifier if it has none, then it is answered, and then the
answer is given the identifier of the request if it has none. -/
def layered (s : Server) (fresh path : Text) (q : HttpRequest) : Handled :=
  let asked := { q with headers := RequestId.marked fresh q.headers }
  let handled := Endpoint.readableHandled (s.route path asked)
  { handled with response := RequestId.propagated asked.headers (s.finish path asked.method handled.response) }

/-- **The server does what the layers do.** -/
theorem layered_eq (s : Server) (fresh path : Text) (q : HttpRequest) : s.layered fresh path q = s.handle fresh path q := by
  have hroute : s.route path { q with headers := RequestId.marked fresh q.headers } = s.route path q := rfl
  have hown := values_answer s path q
  rw [layered, handle]
  simp only [hroute, RequestId.propagated_marked hown]

theorem values_handle (s : Server) (fresh path : Text) (q : HttpRequest) :
    Header.values RequestId.headerName (s.handle fresh path q).response.headers
      = [RequestId.assigned fresh q.headers] := by
  have hown := values_answer s path q
  rw [handle, identified, Header.values_append, hown, RequestId.values_own]
  rfl

/-! ### Main statement -/

/-- How an identifier belongs to a request, to its response and to what the handler sees of it.  The response has it
once; it is the first one that was sent, whatever the letter case of its name, or else the one that was made; and what is
seen is its text, or a word for those that were sent and are not visible. -/
structure Identifies (id random : List UInt8) (q : HttpRequest) (seen : Text) (r : HttpResponse) : Prop where
  once : Header.values RequestId.headerName r.headers = [id]
  sent : ∀ first more, Header.values RequestId.headerName q.headers = first :: more → id = first
  made : Header.values RequestId.headerName q.headers = [] → id = Utf8.encode (RequestId.ofRandom random)
  visible : id.all RequestId.isVisible = true → Utf8.encode seen = id
  unknown : seen = "unknown".toList ↔ Header.values RequestId.headerName q.headers ≠ []
    ∧ (id.all RequestId.isVisible = false ∨ id = Utf8.encode "unknown".toList)

/-- An identifier that is made is never shown as unknown. -/
theorem sent_of_unknown {random : List UInt8} {headers : List Header}
    (h : (RequestId.assigned (RequestId.ofRandom random) headers).all RequestId.isVisible = false
      ∨ RequestId.assigned (RequestId.ofRandom random) headers = Utf8.encode "unknown".toList) :
    Header.values RequestId.headerName headers ≠ [] := by
  intro hnone
  rw [RequestId.assigned_eq, hnone, List.headD_nil] at h
  rcases h with hhidden | hword
  · rw [RequestId.isVisible_ofRandom] at hhidden
    cases hhidden
  · exact RequestId.ofRandom_ne_unknown random (Utf8.encode_inj hword)

theorem identifies_assigned (s : Server) (random : List UInt8) (path : Text) (q : HttpRequest) :
    Identifies (RequestId.assigned (RequestId.ofRandom random) q.headers) random q
      (RequestId.shown (RequestId.marked (RequestId.ofRandom random) q.headers))
      (s.handle (RequestId.ofRandom random) path q).response where
  once := values_handle s _ path q
  sent := by
    intro first more hvalues
    rw [RequestId.assigned_eq, hvalues, List.headD_cons]
  made := by
    intro hvalues
    rw [RequestId.assigned_eq, hvalues, List.headD_nil]
  visible := RequestId.shown_of_visible (RequestId.first?_marked _ _)
  unknown := by
    rw [RequestId.shown_eq_unknown_iff (RequestId.first?_marked _ _)]
    exact ⟨fun h => ⟨sent_of_unknown h, h⟩, And.right⟩

/-- **Every answer has exactly one identifier.**  The server of any configuration with a path that can be routed answers
every valid request, whatever its method, its path and its body are and however long it takes, layer by layer, and the
answer has one identifier, which belongs to the request; the handler sees the same one. -/
theorem identified_once (c : Config) (hroutable : isRoutable c.service.path = true) :
    ∃ s, ofConfig? c = some s ∧ ∀ random q path, q.For path → ∃ h id,
      s.handle? (RequestId.ofRandom random) q = some h ∧ h = s.layered (RequestId.ofRandom random) path q
      ∧ Identifies id random q (RequestId.shown (RequestId.marked (RequestId.ofRandom random) q.headers)) h.response := by
  refine ⟨configured c, ofConfig?_eq_some hroutable, fun random q path hq => ?_⟩
  exact ⟨_, _, handle?_of_for hq, (layered_eq _ _ path q).symm, identifies_assigned _ random path q⟩

/-- A request for no path, with two identifiers in other letter cases, the first of which is not visible. -/
def twiceIdentified : HttpRequest where
  method := "M-SEARCH".toList
  target := "*".toList
  headers := [{ name := "X-REQUEST-ID".toList, value := [0xe9] }, { name := "X-Request-Id".toList, value := [0x62] }]

/-- The first one comes back, although it cannot be shown, and although there is no time for an answer. -/
theorem identified_twiceIdentified : ∃ s h, ofConfig? { timeouts := { requestSecs := 0 } } = some s
    ∧ s.handle? (RequestId.ofRandom (List.replicate 16 0xff)) twiceIdentified = some h
    ∧ Header.values RequestId.headerName h.response.headers = [[0xe9]]
    ∧ RequestId.shown (RequestId.marked (RequestId.ofRandom (List.replicate 16 0xff)) twiceIdentified.headers)
      = "unknown".toList := by
  have hfor : twiceIdentified.For ['*'] := HttpRequest.for_of_path? (by decide) (by decide) (by decide)
  have hvalues : Header.values RequestId.headerName twiceIdentified.headers = [[0xe9], [0x62]] := by decide
  have hsent : Header.values RequestId.headerName twiceIdentified.headers ≠ [] := by
    rw [hvalues]
    exact List.cons_ne_nil _ _
  obtain ⟨s, hs, hall⟩ := identified_once { timeouts := { requestSecs := 0 } } (by decide)
  obtain ⟨h, id, hh, -, hid⟩ := hall (List.replicate 16 0xff) twiceIdentified _ hfor
  obtain rfl := hid.sent _ _ hvalues
  exact ⟨s, h, hs, hh, hid.once, hid.unknown.2 ⟨hsent, Or.inl (by decide)⟩⟩

end Server

end Multiples
