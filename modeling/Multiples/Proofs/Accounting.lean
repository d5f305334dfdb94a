import Multiples.Proofs.Exposition
import Multiples.Proofs.Reading

/-!
# The metrics account for the answers

What is counted is what callers see.  A caller who asks where the endpoint is sees a descriptor, one who sends a document
reads a result or a fault in the answer, and all others are told that their method is not allowed; the metrics count
exactly these answers, and neither those that time out nor those to other paths.

* `CallOutcome.Shown` — what an answer shows to its caller;
* `Server.IsServed`, `Server.TimesOut`, `Server.IsCall` — the requests that are counted, as they are seen from outside;
* `Server.call_eq_some_iff` — what one request adds to the metrics; `Server.count_calls` — what a run adds up to;
* `Server.accounts_lines` — the lines of the metrics after any run;
* `Server.metrics_account` — **the same for a service on a literal path**, of which no request makes a difference that is
  for another path, times out, or finds nothing.
-/

namespace Multiples

namespace CallOutcome

variable {method : Text} {r : HttpResponse} {o : CallOutcome}

/-- What an answer shows to a caller who used a method. -/
inductive Shown (method : Text) (r : HttpResponse) : CallOutcome → Prop
  | descriptor (hmethod : method = "GET".toList ∨ method = "HEAD".toList) : Shown method r .descriptor
  | result {numbers : List Int64} (hmethod : method = "POST".toList)
      (hread : Reply.decode r.body = .ok (.result numbers)) : Shown method r .result
  | fault {code message : Text} (hmethod : method = "POST".toList)
      (hread : Reply.decode r.body = .ok (.fault code message)) : Shown method r .fault
  | rejected (hstatus : r.status = 405) : Shown method r .rejected

/-- What a reply shows. -/
def ofReply : Reply → CallOutcome
  | .result _ => .result
  | .fault _ _ => .fault

theorem shown_iff_of_asks (hmethod : method = Method.get ∨ method = Method.head) (hstatus : r.status = 200) :
    Shown method r o ↔ o = .descriptor := by
  have hpost : method ≠ Method.post := by rcases hmethod with rfl | rfl <;> decide
  constructor
  · intro h
    cases h with
    | descriptor => rfl
    | result hsends => exact absurd hsends hpost
    | fault hsends => exact absurd hsends hpost
    | rejected hno => omega
  · rintro rfl
    exact .descriptor hmethod

theorem shown_iff_of_sends (hmethod : method = Method.post) (hstatus : r.status = 200) {reply : Reply}
    (hread : Reply.decode r.body = .ok reply) : Shown method r o ↔ o = ofReply reply := by
  have hasks : ¬ (method = Method.get ∨ method = Method.head) := by
    subst hmethod
    decide
  constructor
  · intro h
    cases h with
    | descriptor hget => exact absurd hget hasks
    | result _ hresult =>
      cases hread.symm.trans hresult
      rfl
    | fault _ hfault =>
      cases hread.symm.trans hfault
      rfl
    | rejected hno => omega
  · rintro rfl
    cases reply with
    | result numbers => exact .result hmethod hread
    | fault code message => exact .fault hmethod hread

theorem shown_iff_of_rejected (hasks : ¬ (method = Method.get ∨ method = Method.head)) (hsends : method ≠ Method.post)
    (hstatus : r.status = 405) : Shown method r o ↔ o = .rejected := by
  constructor
  · intro h
    cases h with
    | descriptor hget => exact absurd hget hasks
    | result hpost => exact absurd hpost hsends
    | fault hpost => exact absurd hpost hsends
    | rejected => rfl
  · rintro rfl
    exact .rejected hstatus

end CallOutcome

namespace Endpoint

open CallOutcome (ofReply)

theorem call_readableHandled (h : Handled) : (readableHandled h).call = h.call := by
  rw [readableHandled]
  split <;> rfl

/-- A document is counted by what its answer is read as. -/
theorem call_ofOutcome_answerBytes (bytes : List UInt8) : ∃ reply,
    Reply.decode (Service.answerBytes bytes).body = .ok reply
      ∧ (ofOutcome (Service.answerBytes bytes)).call = some ⟨Method.post, ofReply reply⟩ := by
  rcases Service.answered_or_failed bytes with ⟨doc, r, rfl, hr, hzero⟩ | ⟨f, hf⟩
  · rw [Service.answerBytes_eq_result hr hzero]
    exact ⟨_, Reply.decode_encodeResult _, rfl⟩
  · rw [Service.answerBytes_eq_refuse hf]
    exact ⟨_, Service.decode_refuse f, rfl⟩

theorem call_process {maxSize maxSeconds : Nat} {body : List BodyPart} :
    Body.read maxSize maxSeconds body = .expired ∧ (process maxSize maxSeconds body).call = none
      ∨ Body.read maxSize maxSeconds body ≠ .expired ∧ ∃ reply,
        Reply.decode (envelope (Body.read maxSize maxSeconds body)) = .ok reply
          ∧ (process maxSize maxSeconds body).call = some ⟨Method.post, ofReply reply⟩ := by
  rw [process]
  cases Body.read maxSize maxSeconds body with
  | whole bytes =>
    right
    exact ⟨by simp, call_ofOutcome_answerBytes bytes⟩
  | broken reason =>
    right
    exact ⟨by simp, _, Service.decode_refuse (.body reason), rfl⟩
  | expired =>
    left
    exact ⟨rfl, rfl⟩

end Endpoint

namespace Server

open CallOutcome (Shown)

variable {s : Server} {fresh : Text} {q : HttpRequest} {c : Call}

/-! ### One request -/

/-- Whether a request asks for a path that the endpoint is on. -/
def IsServed (s : Server) (q : HttpRequest) : Prop := ∃ path, Target.path? q.target = some path ∧ s.serves path = true

/-- The endpoint is on a literal path of a service alone. -/
theorem isServed_iff (hliteral : PathPattern.isLiteral s.path = true) :
    s.IsServed q ↔ Target.path? q.target = some s.path := by
  constructor
  · rintro ⟨path, htarget, hserved⟩
    rw [htarget, (serves_iff hliteral).1 hserved]
  · intro htarget
    exact ⟨s.path, htarget, serves_path hliteral⟩

/-- Whether a request runs out of time: there is none, or it sends a document whose first event is that time is up. -/
def TimesOut (s : Server) (q : HttpRequest) : Prop :=
  s.requestSecs = 0
    ∨ q.method = "POST".toList ∧ Body.Decides s.maxBodySize (1000 * s.requestSecs) q.body .expired

/-- Whether a request is seen as a call of a method with an outcome: it is for a path that the endpoint is on, it does
not time out, and its answer shows the outcome. -/
structure IsCall (s : Server) (fresh : Text) (c : Call) (q : HttpRequest) : Prop where
  served : s.IsServed q
  method : q.method = c.method
  inTime : ¬ s.TimesOut q
  answer : ∃ h, s.handle? fresh q = some h ∧ Shown q.method h.response c.outcome

theorem call_handle (fresh path : Text) (q : HttpRequest) : (s.handle fresh path q).call = (s.route path q).call :=
  Endpoint.call_readableHandled _

section Served

variable {path : Text} (hserved : s.serves path = true)
include hserved

theorem status_of_served (htime : s.requestSecs ≠ 0) (fresh : Text) (q : HttpRequest) :
    (s.handle fresh path q).response.status = 200 ∨ (s.handle fresh path q).response.status = 405 := by
  have hreadable := isReadable_handle htime hserved fresh q
  by_cases hget : q.method = Method.get
  · exact Or.inl (hreadable.get hget).1
  by_cases hhead : q.method = Method.head
  · exact Or.inl (hreadable.head hhead).1
  by_cases hpost : q.method = Method.post
  · exact Or.inl (hreadable.post hpost).1
  · exact Or.inr (hreadable.other hget hhead hpost).1

/-- Where the endpoint is, and in time, what is counted is what the answer shows, and it shows nothing else. -/
theorem call_of_served (hin : ¬ s.TimesOut q) (fresh : Text) : ∃ o,
    (s.handle fresh path q).call = some ⟨q.method, o⟩
      ∧ ∀ p, Shown q.method (s.handle fresh path q).response p ↔ p = o := by
  have htime : s.requestSecs ≠ 0 := fun hzero => hin (Or.inl hzero)
  have hreadable := isReadable_handle htime hserved fresh q
  rw [call_handle, route_served htime hserved]
  by_cases hasks : q.method = Method.get ∨ q.method = Method.head
  · have hstatus : (s.handle fresh path q).response.status = 200 :=
      hasks.elim (fun hget => (hreadable.get hget).1) fun hhead => (hreadable.head hhead).1
    rw [atEndpoint, if_pos hasks]
    exact ⟨.descriptor, rfl, fun p => CallOutcome.shown_iff_of_asks hasks hstatus⟩
  by_cases hsends : q.method = Method.post
  · have hresponse := response_post htime hserved fresh hsends
    rw [atEndpoint_post hsends]
    rcases @Endpoint.call_process s.maxBodySize s.requestSecs q.body with ⟨hlate, -⟩ | ⟨-, reply, hread, hcall⟩
    · exact absurd (Or.inr ⟨hsends, Body.read_eq_iff.1 hlate⟩) hin
    · refine ⟨CallOutcome.ofReply reply, by rw [hcall, hsends], fun p => ?_⟩
      apply CallOutcome.shown_iff_of_sends hsends (hreadable.post hsends).1
      rw [hresponse]
      exact hread
  · have hstatus := (hreadable.other (fun h => hasks (Or.inl h)) (fun h => hasks (Or.inr h)) hsends).1
    rw [atEndpoint, if_neg hasks, if_neg hsends]
    exact ⟨.rejected, rfl, fun p => CallOutcome.shown_iff_of_rejected hasks hsends hstatus⟩

end Served

theorem call_of_timesOut (hlate : s.TimesOut q) (path : Text) : (s.route path q).call = none := by
  rw [route]
  by_cases hzero : s.requestSecs = 0
  · rw [if_pos hzero]
    rfl
  · obtain ⟨hpost, hdecides⟩ := hlate.resolve_left hzero
    rw [if_neg hzero]
    by_cases hserved : s.serves path = true
    · rw [if_pos hserved, atEndpoint_post hpost, Endpoint.process, Body.read_eq_iff.2 hdecides]
      rfl
    · rw [if_neg hserved]

theorem call_elsewhere {path : Text} (hunserved : ¬ s.serves path = true) (q : HttpRequest) :
    (s.route path q).call = none := by
  rw [route, if_neg hunserved]
  split <;> rfl

/-- **What one request adds to the metrics is what its caller sees**, and nothing if it is for another path or times
out. -/
theorem call_eq_some_iff : (s.handle? fresh q).bind Handled.call = some c ↔ s.IsCall fresh c q := by
  constructor
  · intro hcall
    obtain ⟨h, hh, hcall⟩ := Option.bind_eq_some_iff.1 hcall
    have hfound := hh
    rw [handle?, Option.ite_none_right_eq_some] at hfound
    obtain ⟨path, htarget, rfl⟩ := Option.map_eq_some_iff.1 hfound.2
    rw [call_handle] at hcall
    have hin : ¬ s.TimesOut q := by
      intro hlate
      rw [call_of_timesOut hlate path] at hcall
      cases hcall
    have hserved : s.serves path = true := by
      apply Classical.byContradiction
      intro hunserved
      rw [call_elsewhere hunserved q] at hcall
      cases hcall
    obtain ⟨o, ho, hshown⟩ := call_of_served hserved hin fresh
    rw [call_handle, hcall] at ho
    cases ho
    exact
      { served := ⟨path, htarget, hserved⟩
        method := rfl
        inTime := hin
        answer := ⟨_, hh, (hshown o).2 rfl⟩ }
  · intro hseen
    obtain ⟨h, hh, hshows⟩ := hseen.answer
    obtain ⟨path, htarget, hserved⟩ := hseen.served
    have hfound := hh
    rw [handle?, Option.ite_none_right_eq_some, htarget, Option.map_some] at hfound
    cases hfound.2
    obtain ⟨o, ho, hshown⟩ := call_of_served hserved hseen.inTime fresh
    rw [hh, Option.bind_some, ho, hseen.method, ← (hshown _).1 hshows]

instance : Decidable (s.IsCall fresh c q) := decidable_of_iff _ call_eq_some_iff

/-- A request for another path is not counted, nor one that times out, nor one to which nothing is found. -/
theorem not_isCall (hnot : ¬ s.IsServed q ∨ s.TimesOut q
      ∨ ∃ h, s.handle? fresh q = some h ∧ h.response.status = 404) : ¬ s.IsCall fresh c q := by
  intro hseen
  rcases hnot with helsewhere | hlate | ⟨h, hh, hstatus⟩
  · exact helsewhere hseen.served
  · exact hseen.inTime hlate
  · obtain ⟨path, htarget, hserved⟩ := hseen.served
    rw [handle?, Option.ite_none_right_eq_some, htarget, Option.map_some] at hh
    cases hh.2
    have hstatuses := status_of_served hserved (fun hzero => hseen.inTime (Or.inl hzero)) fresh q
    omega

theorem quote_not_mem_of_isToken {method : Text} (h : Method.isToken method = true) : '"' ∉ method := by
  intro hmem
  have hall := ((Bool.and_eq_true _ _).mp h).2
  exact absurd (List.all_eq_true.1 hall '"' hmem) (by decide)

theorem IsCall.quote_not_mem (h : s.IsCall fresh c q) : '"' ∉ c.method := by
  obtain ⟨handled, hh, -⟩ := h.answer
  rw [handle?, Option.ite_none_right_eq_some] at hh
  rw [← h.method]
  exact quote_not_mem_of_isToken hh.1.1

/-! ### A run -/

variable {qs : List HttpRequest}

/-- A request is counted before those that come after it. -/
theorem calls_run_cons (q : HttpRequest) (qs : List HttpRequest) :
    calls (s.run fresh (q :: qs)) = ((s.handle? fresh q).bind Handled.call).toList ++ calls (s.run fresh qs) := by
  have hcons : calls (s.run fresh (q :: qs)) = calls (s.handle? fresh q :: s.run fresh qs) := rfl
  rw [hcons, calls, List.filterMap_cons]
  cases (s.handle? fresh q).bind Handled.call <;> rfl

theorem calls_run_append (before after : List HttpRequest) :
    calls (s.run fresh (before ++ after)) = calls (s.run fresh before) ++ calls (s.run fresh after) := by
  rw [run, List.map_append, calls, List.filterMap_append]
  rfl

theorem calls_run_perm {others : List HttpRequest} (h : qs.Perm others) :
    (calls (s.run fresh qs)).Perm (calls (s.run fresh others)) := (h.map _).filterMap _

/-- **A run adds up to the requests that are seen as calls.** -/
theorem count_calls (s : Server) (fresh : Text) (qs : List HttpRequest) (c : Call) :
    (calls (s.run fresh qs)).count c = qs.countP fun q => s.IsCall fresh c q := by
  induction qs with
  | nil => rfl
  | cons q qs ih =>
    rw [calls_run_cons, List.count_append, ih, List.countP_cons]
    by_cases hseen : s.IsCall fresh c q
    · rw [call_eq_some_iff.2 hseen, if_pos (decide_eq_true hseen)]
      simp [Nat.add_comm]
    · have hcount : ((s.handle? fresh q).bind Handled.call).toList.count c = 0 := by
        apply List.count_eq_zero.2
        intro hmem
        exact hseen (call_eq_some_iff.1 (Option.mem_toList.1 hmem))
      rw [hcount, if_neg (by simpa using hseen)]
      omega

theorem quotable_calls (s : Server) (fresh : Text) (qs : List HttpRequest) : Metrics.Quotable (calls (s.run fresh qs)) := by
  intro c hc
  rw [← List.count_pos_iff, count_calls, List.countP_pos_iff] at hc
  obtain ⟨q, -, hseen⟩ := hc
  exact (of_decide_eq_true hseen).quote_not_mem

/-- How many of some requests are seen as calls of a method with an outcome. -/
def seen (s : Server) (fresh : Text) (qs : List HttpRequest) (method : Text) (outcome : CallOutcome) : Nat :=
  qs.countP fun q => s.IsCall fresh { method, outcome } q

theorem timed_calls (s : Server) (fresh : Text) (qs : List HttpRequest) (method : Text) :
    Metrics.timed (calls (s.run fresh qs)) method = s.seen fresh qs method .descriptor + s.seen fresh qs method .result
      + s.seen fresh qs method .fault + s.seen fresh qs method .rejected := by
  rw [Metrics.timed_eq]
  simp only [Metrics.total, count_calls, seen]

/-- A request that is not seen as a call leaves the metrics as they are. -/
theorem calls_run_of_not_isCall {before after : List HttpRequest} (h : ∀ c, ¬ s.IsCall fresh c q) :
    calls (s.run fresh (before ++ q :: after)) = calls (s.run fresh (before ++ after)) := by
  have hnone : (s.handle? fresh q).bind Handled.call = none := by
    apply Option.eq_none_iff_forall_ne_some.2
    intro c hcall
    exact h c (call_eq_some_iff.1 hcall)
  rw [calls_run_append, calls_run_cons, hnone, calls_run_append]
  rfl

/-- What the lines of the metrics say of some requests: each count of calls, and of timed calls, is on a line exactly if
it is not zero, and no line is there for anything else, or twice. -/
structure Accounts (s : Server) (fresh : Text) (qs : List HttpRequest) (lines : List Text) : Prop where
  total : ∀ method outcome n,
    Metrics.totalText { method, outcome } n ∈ lines ↔ n = s.seen fresh qs method outcome ∧ 0 < n
  timed : ∀ method n, Metrics.timedText method n ∈ lines ↔ n = s.seen fresh qs method .descriptor
    + s.seen fresh qs method .result + s.seen fresh qs method .fault + s.seen fresh qs method .rejected ∧ 0 < n
  only : ∀ l ∈ lines, (∃ c n, l = Metrics.totalText c n) ∨ ∃ method n, l = Metrics.timedText method n
  once : lines.Nodup

theorem accounts_lines (s : Server) (fresh : Text) (qs : List HttpRequest) :
    s.Accounts fresh qs (Metrics.lines (calls (s.run fresh qs))) where
  total := by
    intro method outcome n
    rw [Metrics.totalText_mem_lines_iff (quotable_calls s fresh qs), Metrics.total, count_calls]
    rfl
  timed := by
    intro method n
    rw [Metrics.timedText_mem_lines_iff (quotable_calls s fresh qs), timed_calls]
  only := fun _ => Metrics.exists_of_mem_lines
  once := Metrics.nodup_lines (quotable_calls s fresh qs)

/-- **The metrics account for every handled call over any run.**  Whatever requests a server on a literal path has
handled, one after another, its metrics have exactly the counts of the answers that its callers have seen, where those
who asked for this path count; a request that is for another path, times out, or finds nothing makes no difference to
them, and neither does the order of the requests. -/
theorem metrics_account (c : Config) (fresh : Text) (qs : List HttpRequest)
    (hroutable : isRoutable c.service.path = true) (hliteral : PathPattern.isLiteral c.service.path = true) :
    ∃ s, ofConfig? c = some s ∧ s.path = c.service.path
      ∧ (∀ q, s.IsServed q ↔ Target.path? q.target = some s.path)
      ∧ s.Accounts fresh qs (Metrics.lines (calls (s.run fresh qs)))
      ∧ (∀ before q after, qs = before ++ q :: after →
          (Target.path? q.target ≠ some s.path ∨ s.TimesOut q ∨ ∃ h, s.handle? fresh q = some h ∧ h.response.status = 404) →
          Metrics.lines (calls (s.run fresh qs)) = Metrics.lines (calls (s.run fresh (before ++ after))))
      ∧ ∀ others, qs.Perm others →
          Metrics.lines (calls (s.run fresh qs)) = Metrics.lines (calls (s.run fresh others)) := by
  have hserved : ∀ q, (configured c).IsServed q ↔ Target.path? q.target = some (configured c).path :=
    fun q => isServed_iff hliteral
  refine ⟨configured c, ofConfig?_eq_some hroutable, rfl, hserved, accounts_lines _ fresh qs, ?_, ?_⟩
  · rintro before q after rfl hnot
    rw [ne_eq, ← hserved q] at hnot
    rw [calls_run_of_not_isCall fun c => not_isCall hnot]
  · intro others hperm
    exact Metrics.lines_perm (calls_run_perm hperm)

/-- One caller who asks, one who asks elsewhere, and one whose document does not come. -/
def fewRequests : List HttpRequest :=
  [{ target := "/factorservice?wsdl".toList },
   { target := "/elsewhere".toList },
   { method := "POST".toList, target := "/factorservice".toList, body := [.chunk [0x3c], .stall] }]

/-- The first of them is counted, and it alone. -/
theorem metrics_of_fewRequests : isRoutable ({} : Config).service.path = true ∧ ∃ s, ofConfig? {} = some s
    ∧ (∀ n, Metrics.totalText ⟨"GET".toList, .descriptor⟩ n ∈ Metrics.lines (calls (s.run [] fewRequests)) ↔ n = 1)
    ∧ ∀ n, Metrics.timedText "POST".toList n ∉ Metrics.lines (calls (s.run [] fewRequests)) := by
  have hroutable : isRoutable ({} : Config).service.path = true := by decide
  obtain ⟨s, hs, -, -, haccounts, -⟩ := metrics_account {} [] fewRequests hroutable (by decide)
  have hserver := hs
  rw [ofConfig?_eq_some hroutable] at hserver
  cases hserver
  have hasks : (configured {}).seen [] fewRequests "GET".toList .descriptor = 1 := by decide +kernel
  have hsends : ∀ o, (configured {}).seen [] fewRequests "POST".toList o = 0 := by
    intro o
    cases o <;> decide +kernel
  refine ⟨hroutable, _, hs, fun n => ?_, fun n => ?_⟩
  · rw [haccounts.total, hasks]
    omega
  · rw [haccounts.timed, hsends, hsends, hsends, hsends]
    omega

end Server

end Multiples
