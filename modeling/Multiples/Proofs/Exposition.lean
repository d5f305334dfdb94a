import Mathlib.Data.List.Nodup
import Multiples.Metrics
import Multiples.Proofs.Search

/-!
# What the lines of the metrics say

The lines are two families of series, one for the counts of calls and one for the timed methods, each with a value for
every event that has happened.  Events are told apart by their line, since a method has no quotation mark in it.

* `Text.isAtMost_trans`, `Text.isAtMost_antisymm` — the order of the lines;
* `Metrics.series` — the lines of one family; `Metrics.mem_series_iff` — a value is on a line exactly if the event
  happened, and so often;
* `Metrics.totalText_inj`, `Metrics.timedText_inj` — a line tells its labels and its value;
* `Metrics.timed_eq` — a method was timed once for every call of it;
* `Metrics.totalText_mem_lines_iff`, `Metrics.timedText_mem_lines_iff`, `Metrics.exists_of_mem_lines` — **the lines
  there are**; `Metrics.lines_perm` — they do not depend on the order of the calls.
-/

namespace Multiples

/-! ### Order -/

namespace Text

theorem isAtMost_total (s t : Text) : (isAtMost s t || isAtMost t s) = true := by
  induction s generalizing t with
  | nil => rfl
  | cons c s ih =>
    cases t with
    | nil => rfl
    | cons d t =>
      by_cases h : c = d
      · simpa [isAtMost, h] using ih t
      · have hne : c.toNat ≠ d.toNat := fun hsame => h (Char.toNat_inj.1 hsame)
        simp only [isAtMost, h, Ne.symm h, if_false, Bool.or_eq_true, decide_eq_true_eq]
        omega

theorem isAtMost_trans {s t u : Text} (hst : isAtMost s t = true) (htu : isAtMost t u = true) :
    isAtMost s u = true := by
  induction s generalizing t u with
  | nil => rfl
  | cons c s ih =>
    cases t with
    | nil => exact nomatch hst
    | cons d t =>
      cases u with
      | nil => exact nomatch htu
      | cons e u =>
        simp only [isAtMost] at hst htu ⊢
        by_cases hcd : c = d
        · subst hcd
          by_cases hce : c = e
          · rw [if_pos rfl] at hst
            rw [if_pos hce] at htu ⊢
            exact ih hst htu
          · rwa [if_neg hce] at htu ⊢
        · rw [if_neg hcd, decide_eq_true_eq] at hst
          by_cases hde : d = e
          · subst hde
            rwa [if_neg hcd, decide_eq_true_eq]
          · rw [if_neg hde, decide_eq_true_eq] at htu
            have hce : c ≠ e := by
              rintro rfl
              omega
            rw [if_neg hce, decide_eq_true_eq]
            omega

theorem isAtMost_antisymm {s t : Text} (hst : isAtMost s t = true) (hts : isAtMost t s = true) : s = t := by
  induction s generalizing t with
  | nil =>
    cases t with
    | nil => rfl
    | cons d t => exact nomatch hts
  | cons c s ih =>
    cases t with
    | nil => exact nomatch hst
    | cons d t =>
      simp only [isAtMost] at hst hts
      by_cases h : c = d
      · subst h
        rw [if_pos rfl] at hst hts
        rw [ih hst hts]
      · rw [if_neg h, decide_eq_true_eq] at hst
        rw [if_neg (Ne.symm h), decide_eq_true_eq] at hts
        omega

end Text

theorem Decimal.ofNat_inj {m n : Nat} (h : Decimal.ofNat m = Decimal.ofNat n) : m = n := by
  have hread := congrArg Decimal.nat? h
  rw [Decimal.nat?_ofNat, Decimal.nat?_ofNat] at hread
  exact Option.some.inj hread

namespace Metrics

theorem sorted_perm (lines : List Text) : (sorted lines).Perm lines := List.mergeSort_perm lines _

theorem pairwise_sorted (lines : List Text) : (sorted lines).Pairwise fun s t => Text.isAtMost s t = true :=
  List.pairwise_mergeSort (fun s t u => @Text.isAtMost_trans s t u) Text.isAtMost_total lines

/-- The same lines come in the same order. -/
theorem sorted_eq {a b : List Text} (h : a.Perm b) : sorted a = sorted b := by
  apply List.Perm.eq_of_pairwise (fun s t _ _ => Text.isAtMost_antisymm) (pairwise_sorted a) (pairwise_sorted b)
  exact (sorted_perm a).trans (h.trans (sorted_perm b).symm)

/-! ### One family of series -/

section Series

variable {α : Type} [BEq α] [LawfulBEq α] {text : α → Nat → Text} {events : List α}

/-- The lines of a family: one for each event there is, with how often it has happened. -/
def series (text : α → Nat → Text) (events : List α) : List Text :=
  events.eraseDups.map fun a => text a (events.count a)

theorem nodup_eraseDups (events : List α) : events.eraseDups.Nodup := by
  cases events with
  | nil => exact List.nodup_nil
  | cons a events =>
    rw [List.eraseDups_cons, List.nodup_cons]
    refine ⟨?_, nodup_eraseDups (events.filter fun b => !b == a)⟩
    simp [List.mem_eraseDups]
termination_by events.length
decreasing_by exact Nat.lt_succ_of_le (List.length_filter_le _ events)

/-- Whether the lines of a family tell their events and values. -/
def Tells (text : α → Nat → Text) (events : List α) : Prop :=
  ∀ a, ∀ b ∈ events, ∀ m n, text a m = text b n → a = b ∧ m = n

/-- **An event has a line exactly if it has happened**, with how often it has. -/
theorem mem_series_iff (htells : Tells text events) {a : α} {n : Nat} :
    text a n ∈ series text events ↔ n = events.count a ∧ 0 < n := by
  rw [series, List.mem_map]
  constructor
  · rintro ⟨b, hb, hline⟩
    rw [List.mem_eraseDups] at hb
    obtain ⟨rfl, rfl⟩ := htells a b hb n _ hline.symm
    exact ⟨rfl, List.count_pos_iff.2 hb⟩
  · rintro ⟨rfl, hpos⟩
    exact ⟨a, List.mem_eraseDups.2 (List.count_pos_iff.1 hpos), rfl⟩

theorem nodup_series (htells : Tells text events) : (series text events).Nodup := by
  apply List.Nodup.map_on _ (nodup_eraseDups events)
  intro a _ b hb hline
  exact (htells a b (List.mem_eraseDups.1 hb) _ _ hline).1

theorem series_perm {others : List α} (h : events.Perm others) : (series text events).Perm (series text others) := by
  have hsame : events.eraseDups.Perm others.eraseDups := by
    rw [List.perm_ext_iff_of_nodup (nodup_eraseDups events) (nodup_eraseDups others)]
    intro a
    rw [List.mem_eraseDups, List.mem_eraseDups, h.mem_iff]
  have hcount : (fun a => text a (events.count a)) = fun a => text a (others.count a) := by
    funext a
    rw [h.count_eq]
  rw [series, series, hcount]
  exact hsame.map _

end Series

/-! ### The two families -/

/-- The line of a count of calls. -/
def totalText (c : Call) (n : Nat) : Text :=
  line "factor_requests_total".toList
    [labelled "method".toList c.method, labelled "outcome".toList c.outcome.label] n

/-- The line of a number of timed calls. -/
def timedText (method : Text) (n : Nat) : Text :=
  line "factor_request_duration_seconds_count".toList [labelled "method".toList method] n

theorem lines_eq (calls : List Call) :
    lines calls = sorted (series totalText calls ++ series timedText (calls.map Call.method)) := rfl

theorem totalText_eq (c : Call) (n : Nat) :
    totalText c n = "factor_requests_total\x7bmethod=\"".toList ++ (c.method ++ '"' :: (",outcome=\"".toList
      ++ (c.outcome.label ++ '"' :: ("\x7d ".toList ++ Decimal.ofNat n)))) := by
  simp [totalText, line, labelled, Text.glue]

theorem timedText_eq (method : Text) (n : Nat) :
    timedText method n = "factor_request_duration_seconds_count\x7bmethod=\"".toList
      ++ (method ++ '"' :: ("\x7d ".toList ++ Decimal.ofNat n)) := by
  simp [timedText, line, labelled, Text.glue]

/-- Lines of the two families differ where their names do. -/
theorem totalText_ne_timedText (c : Call) (method : Text) (m n : Nat) : totalText c m ≠ timedText method n := by
  intro h
  have hname : (totalText c m).take 15 = (timedText method n).take 15 := by rw [h]
  have htotal : (totalText c m).take 15 = "factor_requests".toList := rfl
  have htimed : (timedText method n).take 15 = "factor_request_".toList := rfl
  rw [htotal, htimed] at hname
  exact absurd hname (by decide)

/-! ### Labels and values -/

theorem count_quote_ofNat (n : Nat) : (Decimal.ofNat n).count '"' = 0 := by
  apply List.count_eq_zero.2
  intro h
  exact absurd (Decimal.isDigit_of_mem_ofNat h) (by decide)

theorem quote_not_mem_label (o : CallOutcome) : '"' ∉ o.label := by
  cases o <;> decide

theorem label_inj {o p : CallOutcome} (h : o.label = p.label) : o = p := by
  cases o <;> cases p <;> first | rfl | exact absurd h (by decide)

/-- Two texts up to their first quotation mark. -/
theorem quoted_inj {a b s t : Text} (ha : '"' ∉ a) (hb : '"' ∉ b) (h : a ++ '"' :: s = b ++ '"' :: t) :
    a = b ∧ s = t := by
  have hall : ∀ a : Text, '"' ∉ a → a.all (· != '"') = true := by
    intro a ha
    rw [List.all_eq_true]
    intro c hc
    rw [bne_iff_ne]
    rintro rfl
    exact ha hc
  obtain ⟨hab, -, hst⟩ := Text.run_inj (hall a ha) (hall b hb) rfl rfl h
  exact ⟨hab, hst⟩

/-- **A line tells which calls it counts, and how many**, if their method has no quotation mark in it.  Nothing is asked
of the other method: its quotation marks are as many as those of the line allow. -/
theorem totalText_inj {c d : Call} {m n : Nat} (hd : '"' ∉ d.method) (h : totalText c m = totalText d n) :
    c = d ∧ m = n := by
  rw [totalText_eq, totalText_eq, List.append_right_inj] at h
  have hc : '"' ∉ c.method := by
    have hcount := congrArg (List.count '"') h
    simp only [List.count_append, List.count_cons, count_quote_ofNat, List.count_eq_zero.2 hd,
      List.count_eq_zero.2 (quote_not_mem_label _)] at hcount
    apply List.count_eq_zero.1
    omega
  obtain ⟨hmethod, hrest⟩ := quoted_inj hc hd h
  rw [List.append_right_inj] at hrest
  obtain ⟨hlabel, hvalue⟩ := quoted_inj (quote_not_mem_label _) (quote_not_mem_label _) hrest
  rw [List.append_right_inj] at hvalue
  have houtcome := label_inj hlabel
  cases c
  cases d
  cases hmethod
  cases houtcome
  exact ⟨rfl, Decimal.ofNat_inj hvalue⟩

theorem timedText_inj {a b : Text} {m n : Nat} (hb : '"' ∉ b) (h : timedText a m = timedText b n) : a = b ∧ m = n := by
  rw [timedText_eq, timedText_eq, List.append_right_inj] at h
  have ha : '"' ∉ a := by
    have hcount := congrArg (List.count '"') h
    simp only [List.count_append, List.count_cons, count_quote_ofNat, List.count_eq_zero.2 hb] at hcount
    apply List.count_eq_zero.1
    omega
  obtain ⟨hmethod, hvalue⟩ := quoted_inj ha hb h
  rw [List.append_right_inj] at hvalue
  exact ⟨hmethod, Decimal.ofNat_inj hvalue⟩

/-! ### All lines -/

section Lines

variable {calls : List Call}

/-- No method of a call has a quotation mark in it. -/
def Quotable (calls : List Call) : Prop := ∀ c ∈ calls, '"' ∉ c.method

theorem Quotable.tells_total (h : Quotable calls) : Tells totalText calls :=
  fun _ d hd _ _ => totalText_inj (h d hd)

theorem Quotable.tells_timed (h : Quotable calls) : Tells timedText (calls.map Call.method) := by
  intro a b hb m n
  obtain ⟨d, hd, rfl⟩ := List.mem_map.1 hb
  exact timedText_inj (h d hd)

/-- A method was timed once for each of its calls, whatever came of them. -/
theorem timed_eq (calls : List Call) (method : Text) :
    timed calls method = total calls method .descriptor + total calls method .result + total calls method .fault
      + total calls method .rejected := by
  induction calls with
  | nil => rfl
  | cons c calls ih =>
    simp only [timed, total, List.map_cons, List.count_cons] at ih ⊢
    rw [ih]
    obtain ⟨name, outcome⟩ := c
    by_cases hname : name = method
    · cases outcome <;> simp [hname] <;> omega
    · cases outcome <;> simp [hname]

theorem mem_lines {l : Text} : l ∈ lines calls ↔ l ∈ series totalText calls ∨ l ∈ series timedText (calls.map Call.method) := by
  rw [lines_eq, (sorted_perm _).mem_iff, List.mem_append]

theorem totalText_mem_lines_iff (h : Quotable calls) {c : Call} {n : Nat} :
    totalText c n ∈ lines calls ↔ n = total calls c.method c.outcome ∧ 0 < n := by
  rw [mem_lines, mem_series_iff h.tells_total, or_iff_left]
  · rfl
  · intro hmem
    obtain ⟨method, -, hline⟩ := List.mem_map.1 hmem
    exact totalText_ne_timedText _ _ _ _ hline.symm

theorem timedText_mem_lines_iff (h : Quotable calls) {method : Text} {n : Nat} :
    timedText method n ∈ lines calls ↔ n = timed calls method ∧ 0 < n := by
  rw [mem_lines, mem_series_iff h.tells_timed, or_iff_right]
  · rfl
  · intro hmem
    obtain ⟨c, -, hline⟩ := List.mem_map.1 hmem
    exact totalText_ne_timedText _ _ _ _ hline

/-- Each line is of one of the two families. -/
theorem exists_of_mem_lines {l : Text} (h : l ∈ lines calls) :
    (∃ c n, l = totalText c n) ∨ ∃ method n, l = timedText method n := by
  rcases mem_lines.1 h with hl | hl
  · obtain ⟨c, -, rfl⟩ := List.mem_map.1 hl
    exact Or.inl ⟨c, _, rfl⟩
  · obtain ⟨method, -, rfl⟩ := List.mem_map.1 hl
    exact Or.inr ⟨method, _, rfl⟩

theorem nodup_lines (h : Quotable calls) : (lines calls).Nodup := by
  rw [lines_eq, (sorted_perm _).nodup_iff, List.nodup_append]
  refine ⟨nodup_series h.tells_total, nodup_series h.tells_timed, ?_⟩
  intro l hl k hk
  obtain ⟨c, -, rfl⟩ := List.mem_map.1 hl
  obtain ⟨method, -, rfl⟩ := List.mem_map.1 hk
  exact totalText_ne_timedText _ _ _ _

/-- **The lines do not depend on the order of the calls.** -/
theorem lines_perm {others : List Call} (h : calls.Perm others) : lines calls = lines others := by
  rw [lines_eq, lines_eq]
  apply sorted_eq
  exact (series_perm h).append (series_perm (h.map _))

end Lines

end Metrics

end Multiples
