import Multiples.Proofs.Calls

/-!
# Serving and stopping

A session has two phases.  Until the first stop, a call is answered by what it asks for alone: whatever was asked
before, and however it failed, makes no difference.  The first stop reaches the one listener there is and ends the
server; after it nothing arrives at any call, and a further stop reaches nobody.

* `Session.Serving`, `Session.Ended` — the two phases;
* `Session.Serving.answered`, `Session.Ended.refused` — what comes of a step in each;
* `Session.Serving.run`, `Session.Serving.run_of_stop` — the phase after a run;
* `Session.served_until_stopped` — **every step of every run**;
* `Session.long_path_unserved` — the address of a path may be too long to be asked at all.
-/

namespace Multiples

namespace Session

variable {host path : Text} {port : Nat} {url : Url} {server : Server} {s : Session} {fresh : Text}

/-! ### Steps -/

/-- The path that a step calls, if it is a call. -/
def Step.path? : Step → Option Text
  | .find path _ => some path
  | .send path _ => some path
  | .describe path => some path
  | .stop => none

/-- The result of a call that fails. -/
inductive FailsWith (e : ClientError) : Step → Result → Prop
  | find {path : Text} {r : Request} : FailsWith e (.find path r) (.numbers (.error e))
  | send {path doc : Text} : FailsWith e (.send path doc) (.text (.error e))
  | describe {path : Text} : FailsWith e (.describe path) (.text (.error e))

variable {step : Step} {result : Result}

section Calls

variable (s : Session) (fresh path : Text)

theorem find_eq (r : Request) : s.step fresh (.find path r)
    = (.numbers (Dialog.through (answer fresh) s (Client.find (s.address path) r)).1,
      (Dialog.through (answer fresh) s (Client.find (s.address path) r)).2) := rfl

theorem send_eq (doc : Text) : s.step fresh (.send path doc)
    = (.text (Dialog.through (answer fresh) s (Client.send (s.address path) doc)).1,
      (Dialog.through (answer fresh) s (Client.send (s.address path) doc)).2) := rfl

theorem describe_eq : s.step fresh (.describe path)
    = (.text (Dialog.through (answer fresh) s (Client.describe (s.address path))).1,
      (Dialog.through (answer fresh) s (Client.describe (s.address path))).2) := rfl

end Calls

/-- A call leaves a session as it is but for what is told about it. -/
theorem step_records (s : Session) (fresh : Text) (hcall : step ≠ .stop) :
    ∃ records, (s.step fresh step).2 = { s with records } := by
  cases step with
  | find path r =>
    rw [find_eq]
    exact through_once_records s fresh (s.address path)
  | send path doc =>
    rw [send_eq]
    exact through_once_records s fresh (s.address path)
  | describe path =>
    rw [describe_eq]
    exact through_once_records s fresh (s.address path)
  | stop => exact absurd rfl hcall

/-- What comes of a step does not depend on what has been told before. -/
theorem step_congr (s : Session) (records : List Log.Record) (fresh : Text) (step : Step) :
    (({ s with records } : Session).step fresh step).1 = (s.step fresh step).1 := by
  cases step with
  | find path r =>
    rw [find_eq, find_eq]
    exact congrArg Result.numbers (through_once_congr s records fresh (s.address path))
  | send path doc =>
    rw [send_eq, send_eq]
    exact congrArg Result.text (through_once_congr s records fresh (s.address path))
  | describe path =>
    rw [describe_eq, describe_eq]
    exact congrArg Result.text (through_once_congr s records fresh (s.address path))
  | stop => rfl

/-! ### The two phases -/

/-- The stop signal that one server listens to, before it is sent. -/
def unsentSignal : StopSignal := { listeners := [some 0] }

/-- The same after it has been sent and received. -/
def receivedSignal : StopSignal := { sent := 1, listeners := [none] }

/-- Whether a session is the one of a server at a host and a port, in the phase of a signal. -/
structure InPhase (server : Server) (host : Text) (port : Nat) (signal : StopSignal) (running : Bool) (s : Session) :
    Prop where
  server : s.server = server
  host : s.host = host
  port : s.port = port
  signal : s.signal = signal
  listener : s.listener = 0
  running : s.running = running

/-- Whether the server of a session runs, and nothing has been sent to stop it. -/
abbrev Serving (server : Server) (host : Text) (port : Nat) : Session → Prop := InPhase server host port unsentSignal true

/-- Whether the server of a session has ended. -/
abbrev Ended (server : Server) (host : Text) (port : Nat) : Session → Prop := InPhase server host port receivedSignal false

variable {signal : StopSignal} {running : Bool} {t : Session}

theorem serving_start : Serving server host port (start server host port {}) := ⟨rfl, rfl, rfl, rfl, rfl, rfl⟩

/-- A call keeps the phase. -/
theorem InPhase.after_call (h : InPhase server host port signal running s) (hcall : step ≠ .stop) :
    InPhase server host port signal running (s.step fresh step).2 := by
  obtain ⟨records, hrecords⟩ := step_records s fresh hcall
  rw [hrecords]
  exact ⟨h.server, h.host, h.port, h.signal, h.listener, h.running⟩

/-- In one phase, a step comes to the same whenever it is done. -/
theorem InPhase.step_eq (h : InPhase server host port signal running s) (ht : InPhase server host port signal running t)
    (fresh : Text) (step : Step) : (s.step fresh step).1 = (t.step fresh step).1 := by
  have hsame : s = { t with records := s.records } := by
    cases s
    cases t
    cases h
    cases ht
    simp_all
  rw [hsame]
  exact step_congr t s.records fresh step

/-- The first stop reaches the server, and ends it. -/
theorem Serving.stop (h : Serving server host port s) (fresh : Text) :
    (s.step fresh .stop).1 = .stopped 1 true ∧ Ended server host port (s.step fresh .stop).2 := by
  obtain ⟨server, host, port, signal, listener, running, records⟩ := s
  obtain ⟨rfl, rfl, rfl, rfl, rfl, rfl⟩ := h
  exact ⟨rfl, rfl, rfl, rfl, rfl, rfl, rfl⟩

/-- A later stop reaches nobody, and leaves the session as it is. -/
theorem Ended.stop (h : Ended server host port s) (fresh : Text) :
    (s.step fresh .stop).1 = .stopped 0 false ∧ Ended server host port (s.step fresh .stop).2 := by
  obtain ⟨server, host, port, signal, listener, running, records⟩ := s
  obtain ⟨rfl, rfl, rfl, rfl, rfl, rfl⟩ := h
  exact ⟨rfl, rfl, rfl, rfl, rfl, rfl, rfl⟩

theorem Ended.after_step (h : Ended server host port s) (fresh : Text) (step : Step) :
    Ended server host port (s.step fresh step).2 := by
  by_cases hstop : step = .stop
  · rw [hstop]
    exact (Ended.stop h fresh).2
  · exact InPhase.after_call h hstop

/-! ### What comes of each step -/

/-- What comes of a step while a server runs.  A call that goes to the path of the service gets the answer of the
service, one that goes to another path finds nothing there, and one that goes nowhere fails on the way. -/
structure Answered (server : Server) (host : Text) (port : Nat) (step : Step) (result : Result) : Prop where
  find : ∀ path r url, step = .find path r → Sent host port path url → url.path = server.path →
    result = .numbers (verdict server.maxBodySize r)
  send : ∀ path doc url, step = .send path doc → Sent host port path url → url.path = server.path →
    result = .text (.ok (replyTo server.maxBodySize doc))
  describe : ∀ path url, step = .describe path → Sent host port path url → url.path = server.path →
    result = .text (.ok (Descriptor.document server.publicUrl))
  elsewhere : ∀ path url, step.path? = some path → Sent host port path url → url.path ≠ server.path →
    FailsWith (.status 404 []) step result
  unsent : ∀ path, step.path? = some path → (∀ url, ¬ Sent host port path url) →
    ∃ e, FailsWith (.transport e) step result
  stop : step = .stop → result = .stopped 1 true

/-- What comes of a step after a server has ended. -/
structure Refused (step : Step) (result : Result) : Prop where
  call : step ≠ .stop → ∃ e, FailsWith (.transport e) step result
  stop : step = .stop → result = .stopped 0 false

section Failing

variable {e : ClientError}

theorem failsWith_find {r : Request}
    (h : (Dialog.through (answer fresh) s (Client.find (s.address path) r)).1 = .error e) :
    FailsWith e (.find path r) (s.step fresh (.find path r)).1 := by
  rw [find_eq, h]
  exact .find

theorem failsWith_send {doc : Text}
    (h : (Dialog.through (answer fresh) s (Client.send (s.address path) doc)).1 = .error e) :
    FailsWith e (.send path doc) (s.step fresh (.send path doc)).1 := by
  rw [send_eq, h]
  exact .send

theorem failsWith_describe (h : (Dialog.through (answer fresh) s (Client.describe (s.address path))).1 = .error e) :
    FailsWith e (.describe path) (s.step fresh (.describe path)).1 := by
  rw [describe_eq, h]
  exact .describe

end Failing

/-- Where nothing answers, a step that is a call fails on the way. -/
theorem step_unsent (hcall : step.path? = some path) (hunsent : s.running = false ∨ ∀ url, ¬ Sent s.host s.port path url)
    (fresh : Text) : ∃ e, FailsWith (.transport e) step (s.step fresh step).1 := by
  cases step with
  | find _ r =>
    cases hcall
    obtain ⟨e, he⟩ := through_once_unsent reads_numbersOf hunsent
    exact ⟨e, failsWith_find he⟩
  | send _ doc =>
    cases hcall
    obtain ⟨e, he⟩ := through_once_unsent reads_textOf hunsent
    exact ⟨e, failsWith_send he⟩
  | describe _ =>
    cases hcall
    obtain ⟨e, he⟩ := through_once_unsent reads_textOf hunsent
    exact ⟨e, failsWith_describe he⟩
  | stop => exact nomatch hcall

section Sent

variable (hrunning : s.running = true) (htime : s.server.requestSecs ≠ 0) (hsent : Sent s.host s.port path url)
include hrunning htime hsent

/-- Where nothing is found, a step that is a call is told so. -/
theorem step_missing (hcall : step.path? = some path) (hunserved : ¬ s.server.serves url.path = true) (fresh : Text) :
    FailsWith (.status 404 []) step (s.step fresh step).1 := by
  cases step with
  | find _ r =>
    cases hcall
    apply failsWith_find
    have harrival := arrivalOf_post_elsewhere hsent.path? htime hunserved fresh r.encode
    rw [Client.find, through_once_sent hrunning hsent harrival]
    exact Client.numbersOf_missing url
  | send _ doc =>
    cases hcall
    apply failsWith_send
    have harrival := arrivalOf_post_elsewhere hsent.path? htime hunserved fresh doc
    rw [Client.send, through_once_sent hrunning hsent harrival]
    exact Client.textOf_missing url
  | describe _ =>
    cases hcall
    apply failsWith_describe
    have harrival := arrivalOf_get_elsewhere hsent.path? htime hunserved fresh
    rw [Client.describe, through_once_sent hrunning hsent harrival]
    exact Client.textOf_missing url
  | stop => exact nomatch hcall

section Served

variable (hserved : s.server.serves url.path = true)
include hserved

theorem step_find (fresh : Text) (r : Request) :
    (s.step fresh (.find path r)).1 = .numbers (verdict s.server.maxBodySize r) := by
  have harrival := arrivalOf_post hsent.path? htime hserved fresh r.encode
  rw [find_eq, Client.find, through_once_sent hrunning hsent harrival, numbersOf_replyTo]

theorem step_send (fresh doc : Text) :
    (s.step fresh (.send path doc)).1 = .text (.ok (replyTo s.server.maxBodySize doc)) := by
  have harrival := arrivalOf_post hsent.path? htime hserved fresh doc
  rw [send_eq, Client.send, through_once_sent hrunning hsent harrival, Client.textOf_reply url (head?_replyTo _ _)]

theorem step_describe (fresh : Text) :
    (s.step fresh (.describe path)).1 = .text (.ok (Descriptor.document s.server.publicUrl)) := by
  have harrival := arrivalOf_get hsent.path? htime hserved fresh
  rw [describe_eq, Client.describe, through_once_sent hrunning hsent harrival, Client.textOf_reply url rfl]

end Served

end Sent

theorem Serving.answered (h : Serving server host port s) (hliteral : PathPattern.isLiteral server.path = true)
    (htime : server.requestSecs ≠ 0) (fresh : Text) (step : Step) :
    Answered server host port step (s.step fresh step).1 := by
  cases h.server
  cases h.host
  cases h.port
  have hserves {path : Text} : s.server.serves path = true ↔ path = s.server.path := Server.serves_iff hliteral
  exact
    { find := by
        rintro path r url rfl hsent hpath
        exact step_find h.running htime hsent (hserves.2 hpath) fresh r
      send := by
        rintro path doc url rfl hsent hpath
        exact step_send h.running htime hsent (hserves.2 hpath) fresh doc
      describe := by
        rintro path url rfl hsent hpath
        exact step_describe h.running htime hsent (hserves.2 hpath) fresh
      elsewhere := by
        intro path url hcall hsent hpath
        exact step_missing h.running htime hsent hcall (mt hserves.1 hpath) fresh
      unsent := fun path hcall hunsent => step_unsent hcall (Or.inr hunsent) fresh
      stop := by
        rintro rfl
        exact (Serving.stop h fresh).1 }

theorem Ended.refused (h : Ended server host port s) (fresh : Text) (step : Step) : Refused step (s.step fresh step).1 where
  call := by
    intro hcall
    obtain ⟨path, hpath⟩ : ∃ path, step.path? = some path := by
      cases step with
      | find path r => exact ⟨path, rfl⟩
      | send path doc => exact ⟨path, rfl⟩
      | describe path => exact ⟨path, rfl⟩
      | stop => exact absurd rfl hcall
    exact step_unsent hpath (Or.inl h.running) fresh
  stop := by
    rintro rfl
    exact (Ended.stop h fresh).1

/-! ### Whole runs -/

theorem run_append (s : Session) (fresh : Text) (before after : List Step) :
    s.run fresh (before ++ after) = ((s.run fresh before).1 ++ ((s.run fresh before).2.run fresh after).1,
      ((s.run fresh before).2.run fresh after).2) := by
  induction before generalizing s with
  | nil => rfl
  | cons step before ih =>
    show (_ :: ((s.step fresh step).2.run fresh (before ++ after)).1, ((s.step fresh step).2.run fresh (before ++ after)).2) = _
    rw [ih]
    rfl

theorem length_run (s : Session) (fresh : Text) (steps : List Step) : (s.run fresh steps).1.length = steps.length := by
  induction steps generalizing s with
  | nil => rfl
  | cons step steps ih =>
    show ((s.step fresh step).2.run fresh steps).1.length + 1 = steps.length + 1
    rw [ih]

/-- A server serves until it is stopped. -/
theorem Serving.run (h : Serving server host port s) (fresh : Text) {steps : List Step} (hcalls : .stop ∉ steps) :
    Serving server host port (s.run fresh steps).2 := by
  induction steps generalizing s with
  | nil => exact h
  | cons step steps ih =>
    rw [List.mem_cons, not_or] at hcalls
    exact ih (InPhase.after_call h (Ne.symm hcalls.1)) hcalls.2

theorem Ended.run (h : Ended server host port s) (fresh : Text) (steps : List Step) :
    Ended server host port (s.run fresh steps).2 := by
  induction steps generalizing s with
  | nil => exact h
  | cons step steps ih => exact ih (Ended.after_step h fresh step)

/-- A server has ended once it has been stopped, whatever comes before and after. -/
theorem Serving.run_of_stop (h : Serving server host port s) (fresh : Text) {steps : List Step} (hstop : .stop ∈ steps) :
    Ended server host port (s.run fresh steps).2 := by
  induction steps generalizing s with
  | nil => exact nomatch hstop
  | cons step steps ih =>
    by_cases hfirst : step = .stop
    · rw [hfirst]
      exact Ended.run (Serving.stop h fresh).2 fresh steps
    · have hlater : Step.stop ∈ steps := (List.mem_cons.1 hstop).resolve_left (Ne.symm hfirst)
      exact ih (InPhase.after_call h hfirst) hlater

/-! ### Main statement -/

/-- **Every step of every run.**  A server is reached at a plain host and a port, and the path of its service is one that
reading an address leaves as it is, at an address that is not too long.  Then a call to that path goes to that
path; and whatever callers do, each step before the first stop is answered by what it asks for, as if it were the
first, the first stop is clean, and each step after it is refused. -/
theorem served_until_stopped (c : Config) (host : Text) (port : Nat) (fresh : Text)
    (hroutable : Server.isRoutable c.service.path = true) (htime : 0 < c.timeouts.requestSecs)
    (hplain : Url.Plain host port) (hkept : (Url.parse? (addressAt host port c.service.path)).map Url.path = some c.service.path)
    (hsize : (addressAt host port c.service.path).byteSize ≤ 65534) :
    Server.ofConfig? c = some (Server.configured c)
      ∧ (∃ url, Sent host port c.service.path url ∧ url.path = c.service.path)
      ∧ ∀ before step after, ∃ results result more,
          ((start (Server.configured c) host port {}).run fresh (before ++ step :: after)).1 = results ++ result :: more
          ∧ results.length = before.length
          ∧ (.stop ∉ before → Answered (Server.configured c) host port step result
              ∧ result = ((start (Server.configured c) host port {}).step fresh step).1)
          ∧ (.stop ∈ before → Refused step result) := by
  have hsecs := Server.requestSecs_configured_ne_zero htime
  have hslash := (Server.isRoutable_iff.1 hroutable).1
  have hliteral : PathPattern.isLiteral (Server.configured c).path = true := isLiteral_of_kept hkept
  refine ⟨Server.ofConfig?_eq_some hroutable, ⟨_, sent_of_kept hplain hslash hkept hsize, rfl⟩, ?_⟩
  intro before step after
  have hstart := @serving_start host port (Server.configured c)
  have hrun := run_append (start (Server.configured c) host port {}) fresh before (step :: after)
  refine ⟨_, _, _, congrArg Prod.fst hrun, length_run _ fresh before, fun hcalls => ?_, fun hstop => ?_⟩
  · have hserving := Serving.run hstart fresh hcalls
    exact ⟨Serving.answered hserving hliteral hsecs fresh step, InPhase.step_eq hserving hstart fresh step⟩
  · exact Ended.refused (Serving.run_of_stop hstart fresh hstop) fresh step

/-- A path at a plain host: one caller asks elsewhere, the next one is answered, and then the server is stopped. -/
theorem served_local : ∃ results result more,
    ((start (Server.configured {}) "127.0.0.1".toList 8080 {}).run []
      ([.find "/elsewhere".toList ⟨[1], 1⟩] ++ .find "/factorservice".toList ⟨[4, 5, -6], 2⟩ :: [.stop])).1
        = results ++ result :: more
      ∧ results.length = 1 ∧ result = .numbers (.ok [4, -6]) := by
  have hplain : Url.Plain "127.0.0.1".toList 8080 := ⟨by decide, by decide, by decide⟩
  obtain ⟨-, ⟨url, hsent, hpath⟩, hrun⟩ :=
    served_until_stopped {} "127.0.0.1".toList 8080 [] (by decide) (by decide) hplain (by decide +kernel) (by decide)
  obtain ⟨results, result, more, heq, hlength, hserved, -⟩ :=
    hrun [.find "/elsewhere".toList ⟨[1], 1⟩] (.find "/factorservice".toList ⟨[4, 5, -6], 2⟩) [.stop]
  have hanswered := (hserved (by decide)).1
  refine ⟨results, result, more, heq, hlength, ?_⟩
  rw [hanswered.find "/factorservice".toList ⟨[4, 5, -6], 2⟩ url rfl hsent hpath, verdict, if_neg (by decide +kernel),
    if_neg (by decide)]
  rfl

/-! ### Paths that are too long -/

/-- No call goes to an address that is too long. -/
theorem not_sent_of_long (h : Url.Plain host port) (hslash : path.head? = some '/')
    (hkept : (Url.parse? (addressAt host port path)).map Url.path = some path) (hsize : 65534 < path.byteSize) (url : Url) :
    ¬ Sent host port path url := by
  intro hsent
  have hread := hsent.read
  rw [(parse?_of_kept h hslash hkept).1, Option.map_some, Url.anonymous_plain] at hread
  cases hread
  have hasked := hsent.asked
  rw [Client.canAsk, Bool.and_eq_true, Option.isSome_iff_exists] at hasked
  obtain ⟨found, hfound⟩ := hasked.2
  have hshort := (Target.path?_eq_some_iff.1 hfound).1
  rw [Url.text_plain] at hshort
  simp only [Text.byteSize_append, Text.byteSize] at hshort
  omega

/-- A path of so many letters. -/
def letters (n : Nat) : Text := '/' :: List.replicate (n + 1) 'a'

theorem byteSize_letters (n : Nat) : (letters n).byteSize = n + 2 := by
  have hsize : ∀ n : Nat, Text.byteSize (List.replicate n 'a') = n := by
    intro n
    induction n with
    | zero => rfl
    | succ n ih =>
      rw [List.replicate_succ, Text.byteSize, ih]
      exact Nat.add_comm 1 n
  rw [letters, Text.byteSize, hsize]
  show 1 + (n + 1) = n + 2
  omega

theorem mem_letters {n : Nat} {c : Char} (h : c ∈ letters n) : c = '/' ∨ c = 'a' := by
  rw [letters, List.mem_cons, List.mem_replicate] at h
  exact h.imp_right And.right

theorem isRoutable_letters (n : Nat) : Server.isRoutable (letters n) = true := by
  have hmark : ∀ mark, mark ≠ '/' → mark ≠ 'a' → ¬ Text.HasSegment mark (letters n) := by
    intro mark hslash hletter hsegment
    obtain ⟨before, after, hpath⟩ := hsegment
    have hmem : mark ∈ letters n := by
      rw [hpath]
      simp
    exact (mem_letters hmem).elim hslash hletter
  have hliteral : PathPattern.isLiteral (letters n) = true := by
    rw [PathPattern.isLiteral_iff]
    exact ⟨fun h => absurd (mem_letters h) (by decide), fun h => absurd (mem_letters h) (by decide)⟩
  exact (Server.isRoutable_iff_of_isLiteral hliteral).2
    ⟨rfl, hmark ':' (by decide) (by decide), hmark '*' (by decide) (by decide)⟩

theorem resolvePath_letters (n : Nat) : Url.resolvePath .http ((letters n).drop 1) = letters n := by
  have hslashes : (List.replicate (n + 1) 'a').map (fun c => if Scheme.isSlash .http c then '/' else c)
      = List.replicate (n + 1) 'a' := by
    rw [List.map_replicate]
    rfl
  have hcells : Text.cells '/' (List.replicate (n + 1) 'a') = [List.replicate (n + 1) 'a'] := by
    apply Text.cells_of_not_mem
    rw [List.mem_replicate]
    exact fun h => absurd h.2 (by decide)
  have hdots : Url.plainDots (List.replicate (n + 1) 'a') = 'a' :: Url.plainDots (List.replicate n 'a') := rfl
  have hencode : Percent.encode Url.encodedInPath (List.replicate (n + 1) 'a') = List.replicate (n + 1) 'a' := by
    apply Percent.encode_eq_self
    intro c hc
    rw [(List.mem_replicate.1 hc).2]
    decide
  show '/' :: Text.glue ['/'] (Url.walk [] (Text.cells '/' ((List.replicate (n + 1) 'a').map _))).reverse = _
  rw [hslashes, hcells, Url.walk, hdots, if_neg (by simp), if_neg (by simp), Url.walk, hencode]
  rfl

/-- Not every path that reading leaves as it is can be asked: its address may be longer than any request. -/
theorem long_path_unserved : ¬ ∀ (c : Config) (host : Text) (port : Nat) (fresh : Text) (r : Request),
    Server.isRoutable c.service.path = true → 0 < c.timeouts.requestSecs → Url.Plain host port →
    (Url.parse? (addressAt host port c.service.path)).map Url.path = some c.service.path →
    r.divisor ≠ 0 → r.encode.byteSize ≤ c.listener.maxBodySize.toNat →
    ((start (Server.configured c) host port {}).step fresh (.find c.service.path r)).1
      = .numbers (.ok (r.numbers.filter fun n => decide (r.divisor.toInt ∣ n.toInt))) := by
  intro hserved
  have hplain : Url.Plain "127.0.0.1".toList 8080 := ⟨by decide, by decide, by decide⟩
  have hchars : (letters 65539).all Target.isPathChar = true := by
    rw [List.all_eq_true]
    intro c hc
    rcases mem_letters hc with rfl | rfl <;> decide
  have hkept : (Url.parse? (addressAt "127.0.0.1".toList 8080 (letters 65539))).map Url.path = some (letters 65539) := by
    rw [addressAt_eq, Url.parse?_plain hplain rfl hchars, resolvePath_letters]
    rfl
  have hlong : 65534 < (letters 65539).byteSize := by
    rw [byteSize_letters]
    omega
  have hunsent := not_sent_of_long hplain rfl hkept hlong
  have hok := hserved { service := { path := letters 65539 } } "127.0.0.1".toList 8080 [] ⟨[4], 2⟩
    (isRoutable_letters 65539) (by decide) hplain hkept (by decide) (by decide +kernel)
  obtain ⟨e, hfails⟩ := @step_unsent (letters 65539)
    (start (Server.configured { service := { path := letters 65539 } }) "127.0.0.1".toList 8080 {})
    (.find (letters 65539) ⟨[4], 2⟩) rfl (Or.inr hunsent) []
  rw [hok] at hfails
  exact nomatch hfails

end Session

end Multiples
