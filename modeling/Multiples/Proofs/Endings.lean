import Mathlib.Data.List.Forall2
import Multiples.Program.CommandLine
import Multiples.Proofs.Integers
import Multiples.Proofs.Search

/-!
# How the client ends

Whoever starts the client sees what it prints and how it ends.  Both tell what came of the calls that were made: a list
is printed on one line that can be read back, and every other ending is a failure; a trial makes all of its calls, and
ends well only if every one of them comes to the expected list.

* `Text.pieces` — a text cut at every occurrence of a mark; `Text.pieces_glue` says that cutting undoes gluing;
* `CommandLine.readShown?_shown` — **what is printed of a list is read back**;
* `CommandLine.parse_findArguments`, `CommandLine.parse_demoArguments` — everything that can be asked for has arguments;
* `CommandLine.calls` — what comes of several calls in a row; `CommandLine.through_tryCases` says that a trial makes them
  all, against any server, and `CommandLine.calls_script` what comes of them against a script;
* `CommandLine.exit_tells_truth` — the main statement.
-/

namespace Multiples

namespace Text

/-! ### Cutting at a mark -/

/-- The pieces between the occurrences of a mark, which are found from the left; the empty mark cuts nothing. -/
def pieces (mark s : Text) : List Text :=
  if _hmark : mark = [] then [s]
  else
    match _hcut : cut? mark s with
    | none => [s]
    | some found => found.1 :: pieces mark found.2
termination_by s.length
decreasing_by
  have hlength := congrArg List.length (cut?_eq_some _hcut)
  have hpos := List.length_pos_iff.2 _hmark
  simp only [List.length_append] at hlength
  omega

section Pieces

variable {mark s : Text}

theorem pieces_of_none (h : cut? mark s = none) : pieces mark s = [s] := by
  rw [pieces]
  by_cases hmark : mark = []
  · rw [dif_pos hmark]
  · rw [dif_neg hmark]
    split
    · rfl
    · rename_i found hfound
      rw [h] at hfound
      exact nomatch hfound

theorem pieces_of_some (hmark : mark ≠ []) {found : Text × Text} (h : cut? mark s = some found) :
    pieces mark s = found.1 :: pieces mark found.2 := by
  rw [pieces, dif_neg hmark]
  split
  · rename_i hnone
    rw [h] at hnone
    exact nomatch hnone
  · rename_i other hother
    rw [h] at hother
    rw [Option.some.inj hother]

/-- **Cutting at a mark undoes gluing with it**, if no piece has the character that the mark begins with. -/
theorem pieces_glue {m : Char} {cell : Text} {more : List Text} (h : ∀ c ∈ cell :: more, m ∉ c) :
    pieces (m :: mark) (glue (m :: mark) (cell :: more)) = cell :: more := by
  induction more generalizing cell with
  | nil =>
    have hskips : Skips (m :: mark) cell := skips_of_not_mem (h cell List.mem_cons_self)
    exact pieces_of_none hskips.cut?_eq_none
  | cons next more ih =>
    have hskips : Skips (m :: mark) cell := skips_of_not_mem (h cell List.mem_cons_self)
    have hnext := ih fun c hc => h c (List.mem_cons_of_mem cell hc)
    have hglued : glue (m :: mark) (cell :: next :: more)
        = cell ++ ((m :: mark) ++ glue (m :: mark) (next :: more)) := by
      rw [glue, List.append_assoc]
    rw [hglued, pieces_of_some (List.cons_ne_nil m mark) (hskips.cut?_eq _), hnext]

end Pieces

end Text

namespace Decimal

theorem mapM_int64?_map_ofInt64 (ns : List Int64) : (ns.map ofInt64).mapM int64? = some ns := by
  induction ns with
  | nil => rfl
  | cons n ns ih => simp [List.mapM_cons, int64?_ofInt64, ih]

end Decimal

namespace CommandOption

/-! ### Options with their values -/

/-- An option with its value attached after the long name. -/
def attach (o : CommandOption) (value : Text) : Text := '-' :: '-' :: (o.long ++ '=' :: value)

theorem given?_attach (o : CommandOption) (value : Text) : o.given? (o.attach value) = some (.attached value) := by
  have hafter : Text.after? ('-' :: '-' :: o.long) (o.attach value) = some ('=' :: value) := Text.after?_eq_some.2 rfl
  rw [given?, hafter]
  rfl

/-- **An attached value is taken**, whatever it is. -/
theorem take?_attach (o : CommandOption) (value : Text) (more : List Text) :
    o.take? (o.attach value :: more) = some (some (value, more)) := by
  simp only [take?, given?_attach]

end CommandOption

namespace CommandLine

/-! ### Lists as they are printed -/

/-- The list that a printed line shows: nothing stands for the empty list, and else an integer between every two
occurrences of a comma and a blank. -/
def readShown? (printed : Text) : Option (List Int64) :=
  if printed = [] then some [] else (Text.pieces [',', ' '] printed).mapM Decimal.int64?

/-- **What is printed of a list is read back.** -/
theorem readShown?_shown (ns : List Int64) : readShown? (shown ns) = some ns := by
  cases ns with
  | nil => rfl
  | cons n ns =>
    have hshown : shown (n :: ns) ≠ [] := fun h => List.cons_ne_nil n ns (Envelope.joined_eq_nil.1 h)
    have hpieces : Text.pieces [',', ' '] (shown (n :: ns)) = (n :: ns).map Decimal.ofInt64 :=
      Text.pieces_glue (Decimal.comma_not_mem_map_ofInt64 (n :: ns))
    rw [readShown?, if_neg hshown, hpieces, Decimal.mapM_int64?_map_ofInt64]

/-- A printed list is one line. -/
theorem newline_not_mem_shown (ns : List Int64) : '\n' ∉ shown ns := by
  intro h
  rcases Text.mem_glue h with hbetween | ⟨piece, hpiece, hmem⟩
  · simp at hbetween
  · obtain ⟨n, -, rfl⟩ := List.mem_map.1 hpiece
    exact Decimal.not_mem_ofInt (by decide) (by decide) n.toInt hmem

/-! ### Arguments -/

/-- Arguments that ask for the multiples of a divisor. -/
def findArguments (endpoint : Text) (r : Request) : List Text :=
  [urlOption.attach endpoint, "find".toList]
    ++ (if r.numbers = [] then [] else [numbersOption.attach (Envelope.joined [','] r.numbers)])
    ++ [divisorOption.attach (Decimal.ofInt64 r.divisor)]

/-- Arguments that ask for a trial. -/
def demoArguments (endpoint : Text) : List Text := [urlOption.attach endpoint, "demo".toList]

section Arguments

variable {url argument value : Text} {numbers : List Int64} {divisor : Option Int64} {more rest : List Text}

theorem parseFind_numbers {ns : List Int64} (htake : numbersOption.take? (argument :: more) = some (some (value, rest)))
    (hns : (value.cells ',').mapM Decimal.int64? = some ns) :
    parseFind url numbers divisor (argument :: more) = parseFind url (numbers ++ ns) divisor rest := by
  rw [parseFind]
  split
  · rename_i value' rest' htaken
    rw [htake] at htaken
    cases htaken
    rw [hns]
  · rename_i htaken
    rw [htake] at htaken
    cases htaken
  · rename_i htaken
    rw [htake] at htaken
    cases htaken

theorem parseFind_divisor {d : Int64} (hother : numbersOption.take? (argument :: more) = none)
    (htake : divisorOption.take? (argument :: more) = some (some (value, rest)))
    (hd : Decimal.int64? value = some d) :
    parseFind url numbers none (argument :: more) = parseFind url numbers (some d) rest := by
  rw [parseFind]
  split
  · rename_i htaken
    rw [hother] at htaken
    cases htaken
  · rename_i htaken
    rw [hother] at htaken
    cases htaken
  · split
    · rename_i value' rest' htaken
      rw [htake] at htaken
      cases htaken
      rw [hd]
    · rename_i htaken
      rw [htake] at htaken
      cases htaken
    · rename_i htaken
      rw [htake] at htaken
      cases htaken

theorem parseFind_nil {d : Int64} : parseFind url numbers (some d) [] = .run url (.find { numbers, divisor := d }) := by
  rw [parseFind]

/-- A divisor is no list of numbers. -/
theorem numbers_take?_divisor (value : Text) (more : List Text) :
    numbersOption.take? (divisorOption.attach value :: more) = none := rfl

theorem parse_urlOption (endpoint name : Text) (more : List Text) : parse (urlOption.attach endpoint :: name :: more)
    = if asksForHelp name then .help else parseCommand endpoint name more := by
  rw [parse, CommandOption.take?_attach]

/-- **Every list and every divisor can be asked about.** -/
theorem parse_findArguments (endpoint : Text) (r : Request) :
    parse (findArguments endpoint r) = .run endpoint (.find r) := by
  obtain ⟨numbers, divisor⟩ := r
  have hdivisor : ∀ ns : List Int64, parseFind endpoint ns none [divisorOption.attach (Decimal.ofInt64 divisor)]
      = .run endpoint (.find { numbers := ns, divisor }) := by
    intro ns
    rw [parseFind_divisor (numbers_take?_divisor _ []) (divisorOption.take?_attach _ [])
      (Decimal.int64?_ofInt64 divisor), parseFind_nil]
  rw [findArguments]
  cases numbers with
  | nil =>
    show parse (urlOption.attach endpoint :: "find".toList :: _) = _
    rw [parse_urlOption]
    exact hdivisor []
  | cons n ns =>
    have hcells : (Text.cells ',' (Envelope.joined [','] (n :: ns))).mapM Decimal.int64? = some (n :: ns) := by
      rw [Envelope.joined, List.map_cons,
        Text.cells_glue List.not_mem_nil (Decimal.comma_not_mem_map_ofInt64 (n :: ns))]
      simp only [List.nil_append, List.map_id']
      exact Decimal.mapM_int64?_map_ofInt64 (n :: ns)
    show parse (urlOption.attach endpoint :: "find".toList :: numbersOption.attach _ :: _) = _
    rw [parse_urlOption]
    show parseFind endpoint [] none _ = _
    rw [parseFind_numbers (numbersOption.take?_attach _ _) hcells]
    exact hdivisor (n :: ns)

theorem parse_demoArguments (endpoint : Text) : parse (demoArguments endpoint) = .run endpoint .demo := by
  rw [demoArguments, parse_urlOption]
  rfl

end Arguments

/-! ### Calls and their ending -/

section Calls

variable {σ : Type} (answer : σ → Url → HttpRequest → Arrival × σ) (s : σ) (endpoint : Text)

/-- What is printed of a call, and how it ends, told by what the call comes to.  A list is printed on one line that can be
read back; of anything else, nothing is printed, and the ending is a failure. -/
structure Reports (found : Except ClientError (List Int64)) (out : ProgramOutput) : Prop where
  exit_eq_zero_iff : out.exit = 0 ↔ ∃ ns, found = .ok ns
  prints : ∀ ns, found = .ok ns → ∃ printed, out.stdout = line printed ∧ '\n' ∉ printed ∧ readShown? printed = some ns
  silent : (∀ ns, found ≠ .ok ns) → out.stdout = [] ∧ out.exit = 1

theorem reports_findOutput (found : Except ClientError (List Int64)) : Reports found (findOutput found) := by
  cases found with
  | ok ns =>
    refine ⟨⟨fun _ => ⟨ns, rfl⟩, fun _ => rfl⟩, fun ms hms => ?_, fun h => absurd rfl (h ns)⟩
    rw [← Except.ok.inj hms]
    exact ⟨shown ns, rfl, newline_not_mem_shown ns, readShown?_shown ns⟩
  | error e =>
    have hfailed : (findOutput (.error e)).stdout = [] ∧ (findOutput (.error e)).exit = 1 := by
      cases e <;> exact ⟨rfl, rfl⟩
    refine ⟨⟨fun h => ?_, fun ⟨ns, hns⟩ => ?_⟩, fun ns hns => ?_, fun _ => hfailed⟩
    · rw [hfailed.2] at h
      exact absurd h Nat.one_ne_zero
    · exact nomatch hns
    · exact nomatch hns

/-- The command that finds multiples makes one call, and ends as the call did. -/
theorem through_find (r : Request) : Dialog.through answer s (dialog (.run endpoint (.find r)))
    = (findOutput (Dialog.through answer s (Client.find endpoint r)).1,
      (Dialog.through answer s (Client.find endpoint r)).2) := by
  show Dialog.through answer s (Client.find endpoint r >>= fun result => pure (findOutput result)) = _
  rw [Dialog.through_bind, Dialog.through_pure]

/-! ### Trials -/

/-- What comes of the calls of cases, one after the other, and what becomes of the server. -/
def calls : σ → List Case → List (Except ClientError (List Int64)) × σ
  | s, [] => ([], s)
  | s, c :: more =>
    let found := Dialog.through answer s (Client.find endpoint c.request)
    let others := calls found.2 more
    (found.1 :: others.1, others.2)

theorem Case.passed_iff {c : Case} {found : Except ClientError (List Int64)} :
    c.passed found = true ↔ found = .ok c.expected := by
  cases found with
  | ok ns => simp [Case.passed]
  | error e => simp [Case.passed]

/-- **A trial makes all of its calls**, whatever they come to, and counts no failure exactly if each of them comes to the
list that is expected. -/
theorem through_tryCases (i : Nat) (cases : List Case) :
    (Dialog.through answer s (tryCases endpoint i cases)).2 = (calls answer endpoint s cases).2
    ∧ ((Dialog.through answer s (tryCases endpoint i cases)).1.2 = 0
      ↔ List.Forall₂ (fun c found => found = .ok c.expected) cases (calls answer endpoint s cases).1) := by
  -- the number of the case and the server that it meets change from call to call
  induction cases generalizing s i with
  | nil => exact ⟨rfl, fun _ => .nil, fun _ => rfl⟩
  | cons c more ih =>
    have hrest := ih (Dialog.through answer s (Client.find endpoint c.request)).2 (i + 1)
    have hsplit : Dialog.through answer s (tryCases endpoint i (c :: more))
        = Dialog.through answer s (Client.find endpoint c.request >>= fun result =>
            tryCases endpoint (i + 1) more >>= fun tried =>
              pure (c.heading i ++ c.verdict result ++ tried.1, if c.passed result then tried.2 else tried.2 + 1)) := rfl
    rw [hsplit, Dialog.through_bind, Dialog.through_bind, Dialog.through_pure]
    refine ⟨hrest.1, ?_⟩
    show (if c.passed _ = true then _ else _) = 0 ↔ List.Forall₂ _ (c :: more) (_ :: _)
    rw [List.forall₂_cons, ← hrest.2, ← Case.passed_iff]
    split
    · rename_i hpassed
      exact (and_iff_right hpassed).symm
    · rename_i hfailed
      exact iff_of_false (Nat.succ_ne_zero _) fun h => hfailed h.1

/-- **A trial ends well exactly if each of its calls comes to the list that is expected.** -/
theorem through_demo :
    let ended := Dialog.through answer s (dialog (.run endpoint .demo))
    let called := calls answer endpoint s demoCases
    ended.2 = called.2
    ∧ (ended.1.exit = 0 ↔ List.Forall₂ (fun c found => found = .ok c.expected) demoCases called.1)
    ∧ (ended.1.exit = 0 ∨ ended.1.exit = 1) := by
  intro ended called
  obtain ⟨hserver, hfailed⟩ := through_tryCases answer s endpoint 1 demoCases
  generalize htried : Dialog.through answer s (tryCases endpoint 1 demoCases) = tried at hserver hfailed
  have hended : ended = ({ exit := (if tried.1.2 = 0 then 0 else 1), stdout := tried.1.1 }, tried.2) := by
    show Dialog.through answer s (tryCases endpoint 1 demoCases >>= fun tried =>
      (pure { exit := (if tried.2 = 0 then 0 else 1), stdout := tried.1 } : Dialog ProgramOutput)) = _
    rw [Dialog.through_bind, Dialog.through_pure, htried]
  rw [hended]
  refine ⟨hserver, ?_⟩
  rw [← hfailed]
  by_cases hall : tried.1.2 = 0
  · simp [hall]
  · simp [hall]

end Calls

/-! ### Scripts -/

section Scripts

variable {script : Dialog.Script} {endpoint : Text} {url : Url}

/-- Whether an address is the one where a script stands, so that what is asked there is answered by the script. -/
structure StandsAt (script : Dialog.Script) (endpoint : Text) (url : Url) : Prop where
  read : (Url.parse? endpoint).map Url.anonymous = some url
  asked : Client.canAsk url = true
  here : url.isAt script.host script.port = true

/-- A call to a script is asked there, and comes to what the next reply says. -/
theorem replay_find (h : StandsAt script endpoint url) {reply : Arrival} {more : List Arrival}
    (hreplies : script.replies = reply :: more) (r : Request) :
    Dialog.replay script (Client.find endpoint r) = (Client.numbersOf url reply,
      { script with replies := more, asked := script.asked ++ [Client.postRequest url r.encode] }) := by
  rw [Client.find, Client.once, h.read]
  simp only [h.asked, if_true]
  rw [Dialog.replay, Dialog.through, Dialog.through, Dialog.Script.answer_of_isAt h.here hreplies]

/-- **All calls are asked, each gets its own reply**, and none depends on what came of the ones before. -/
theorem calls_script (h : StandsAt script endpoint url) (cases : List Case) {replies more : List Arrival}
    (hlength : replies.length = cases.length) (hreplies : script.replies = replies ++ more) :
    calls Dialog.Script.answer endpoint script cases = (replies.map (Client.numbersOf url),
      { script with
        replies := more
        asked := script.asked ++ cases.map fun c => Client.postRequest url c.request.encode }) := by
  induction cases generalizing script replies with
  | nil =>
    have hnone : replies = [] := List.length_eq_zero_iff.1 hlength
    subst hnone
    have hsame : script = { script with replies := more, asked := script.asked ++ [] } := by
      rw [List.append_nil, ← show script.replies = more from hreplies]
    exact congrArg (Prod.mk []) hsame
  | cons c cases ih =>
    cases replies with
    | nil => simp at hlength
    | cons reply replies =>
      let next : Dialog.Script := { script with
        replies := replies ++ more
        asked := script.asked ++ [Client.postRequest url c.request.encode] }
      have hcall : Dialog.through Dialog.Script.answer script (Client.find endpoint c.request)
          = (Client.numbersOf url reply, next) := replay_find h hreplies c.request
      have hstands : StandsAt next endpoint url := ⟨h.read, h.asked, h.here⟩
      have hrest := ih hstands (by simpa using hlength) (show next.replies = replies ++ more from rfl)
      simp only [calls, hcall, hrest]
      simp [next]

end Scripts

/-! ### Main statement -/

/-- **How the client ends tells the truth about its calls.**  Every list, every divisor, and a trial can be asked for.
Whatever a script has in store, one who asks for multiples is shown a list on one line exactly if the call comes to that
list, and else sees nothing and a failure.  A trial makes both of its calls, whatever the first one comes to, and ends well
exactly if the one comes to the multiples of five and the other to the multiples of three; else it ends in a failure.
Where the script stands at the address, it is asked for both, and each call comes to what its own reply says. -/
theorem exit_tells_truth (script : Dialog.Script) (endpoint : Text) :
    (∀ r, parse (findArguments endpoint r) = .run endpoint (.find r))
    ∧ parse (demoArguments endpoint) = .run endpoint .demo
    ∧ (∀ (r : Request) (arguments : List Text), parse arguments = .run endpoint (.find r) →
        let found := (Dialog.replay script (Client.find endpoint r)).1
        let out := (Dialog.replay script (parse arguments).dialog).1
        Reports found out
        ∧ ∀ (url : Url) (a : Arrival) (more : List Arrival), StandsAt script endpoint url → script.replies = a :: more →
            found = Client.numbersOf url a)
    ∧ ∀ arguments : List Text, parse arguments = .run endpoint .demo →
        let five : Request := { numbers := [1, 5, 23, 25, 35, 78, 30, 96], divisor := 5 }
        let three : Request := { numbers := [3, 20, 15], divisor := 3 }
        let first := Dialog.replay script (Client.find endpoint five)
        let second := Dialog.replay first.2 (Client.find endpoint three)
        let ended := Dialog.replay script (parse arguments).dialog
        ended.2 = second.2
        ∧ (ended.1.exit = 0 ↔ first.1 = .ok [5, 25, 35, 30] ∧ second.1 = .ok [3, 15])
        ∧ (ended.1.exit = 0 ∨ ended.1.exit = 1)
        ∧ ∀ (url : Url) (a b : Arrival) (more : List Arrival), StandsAt script endpoint url →
            script.replies = a :: b :: more →
            first.1 = Client.numbersOf url a ∧ second.1 = Client.numbersOf url b
            ∧ ended.2 = { script with
                replies := more
                asked := script.asked
                  ++ [Client.postRequest url five.encode, Client.postRequest url three.encode] } := by
  refine ⟨parse_findArguments endpoint, parse_demoArguments endpoint, fun r arguments harguments => ?_,
    fun arguments harguments => ?_⟩
  · intro found out
    have hout : out = findOutput found := by
      show (Dialog.replay script (parse arguments).dialog).1 = _
      rw [harguments, Dialog.replay, through_find]
      rfl
    have hreports : Reports found out := hout ▸ reports_findOutput found
    refine ⟨hreports, fun url a more hstands hreplies => ?_⟩
    show (Dialog.replay script (Client.find endpoint r)).1 = _
    rw [replay_find hstands hreplies]
  · intro five three first second ended
    have hcalls : calls Dialog.Script.answer endpoint script demoCases = ([first.1, second.1], second.2) := rfl
    obtain ⟨hserver, hexit, hends⟩ := through_demo Dialog.Script.answer script endpoint
    have hended : ended = Dialog.through Dialog.Script.answer script (dialog (.run endpoint .demo)) := by
      show Dialog.replay script (parse arguments).dialog = _
      rw [harguments, Dialog.replay]
    rw [hcalls] at hserver hexit
    rw [hended]
    refine ⟨hserver, ?_, hends, fun url a b more hstands hreplies => ?_⟩
    · rw [hexit]
      simp [demoCases]
    · have hscript := calls_script hstands demoCases (show [a, b].length = demoCases.length from rfl) hreplies
      rw [hcalls, Prod.mk.injEq, List.map_cons, List.map_cons, List.map_nil, List.cons.injEq, List.cons.injEq] at hscript
      obtain ⟨⟨hfirst, hsecond, -⟩, hafter⟩ := hscript
      exact ⟨hfirst, hsecond, hserver.trans hafter⟩

/-- A script that keeps silent at first, and then gives a list. -/
def lateScript : Dialog.Script :=
  { host := "127.0.0.1".toList
    port := 8080
    replies := [.nothing, .reply 200 (Utf8.encode "<result>3, 15</result>".toList) 0] }

/-- A trial is not put off by the silence: it asks twice, and ends in a failure although the second call comes to the
expected list.  One who asks for multiples later is shown that list. -/
theorem exit_of_lateScript :
    let endpoint : Text := "http://127.0.0.1:8080/factorservice".toList
    let trial := Dialog.replay lateScript (parse (demoArguments endpoint)).dialog
    let later : Dialog.Script := { lateScript with replies := lateScript.replies.drop 1 }
    let call := Dialog.replay later (parse (findArguments endpoint { numbers := [3, 20, 15], divisor := 3 })).dialog
    (trial.1.exit = 1 ∧ trial.2.asked.length = 2 ∧ trial.2.replies = [])
    ∧ call.1.exit = 0 ∧ ∃ printed, call.1.stdout = line printed ∧ readShown? printed = some [3, 15] := by
  intro endpoint trial later call
  obtain ⟨url, hread, hasked, hhere⟩ : ∃ url, (Url.parse? endpoint).map Url.anonymous = some url
      ∧ Client.canAsk url = true ∧ url.isAt "127.0.0.1".toList 8080 = true := by
    refine ⟨{
      scheme := .http
      authority := some { host := "127.0.0.1".toList, port := some 8080 }
      path := "/factorservice".toList }, ?_, ?_, ?_⟩ <;> decide +kernel
  obtain ⟨hfind, hdemo, -, htrial⟩ := exit_tells_truth lateScript endpoint
  obtain ⟨-, hexit, hends, hasks⟩ := htrial (demoArguments endpoint) hdemo
  obtain ⟨hsilent, -, hafter⟩ := hasks url _ _ [] ⟨hread, hasked, hhere⟩ rfl
  have htold : Dialog.replay lateScript (parse (demoArguments endpoint)).dialog = trial := rfl
  rw [htold] at hexit hends hafter
  refine ⟨⟨?_, ?_, ?_⟩, ?_⟩
  · rcases hends with hzero | hone
    · have hfound := (hexit.1 hzero).1
      rw [hsilent] at hfound
      exact nomatch hfound
    · exact hone
  · rw [hafter]
    rfl
  · rw [hafter]
  · obtain ⟨-, -, hcall, -⟩ := exit_tells_truth later endpoint
    obtain ⟨hreports, hreply⟩ := hcall _ _ (hfind { numbers := [3, 20, 15], divisor := 3 })
    have htold : Dialog.replay later (parse (findArguments endpoint { numbers := [3, 20, 15], divisor := 3 })).dialog
      = call := rfl
    rw [htold] at hreports
    have hfound := hreply url _ [] ⟨hread, hasked, hhere⟩ rfl
    have hlist : Client.numbersOf url (.reply 200 (Utf8.encode "<result>3, 15</result>".toList) 0) = .ok [3, 15] := rfl
    rw [hlist] at hfound
    obtain ⟨printed, hprinted, -, hback⟩ := hreports.prints _ hfound
    exact ⟨hreports.exit_eq_zero_iff.2 ⟨_, hfound⟩, printed, hprinted, hback⟩

end CommandLine

end Multiples
