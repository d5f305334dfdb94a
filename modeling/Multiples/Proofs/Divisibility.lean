import Multiples.Filter

/-!
# The filter and divisibility

The filter asks for a machine remainder of zero.  That remainder is the truncated one of unbounded integers, also
at the one pair whose quotient overflows, and a truncated remainder is zero exactly for multiples; so the filter
keeps the multiples in the sense of unbounded integers, whatever the signs.

* `rem_eq_zero_iff_dvd` — the test on one integer;
* `multiplesOf_eq_ok` — the filter on a whole list;
* `eq_filter_of_count` — a sublist is what a filter keeps as soon as it holds each integer often enough;
* `multiplesOf_neg`, `multiplesOf_multiplesOf` — the sign of a divisor does not matter, and one divisor after another
  keeps what both divide;
* `multiplesOf_exact` — the main statement, for every list and every pair of divisors.
-/

namespace Multiples

/-- Whether an integer divides another one, as unbounded integers. -/
def divides (divisor n : Int64) : Bool := decide (divisor.toInt ∣ n.toInt)

theorem rem_eq_zero_iff_dvd (n divisor : Int64) : n % divisor = 0 ↔ divisor.toInt ∣ n.toInt := by
  rw [← Int64.toInt_inj, Int64.toInt_mod, Int64.toInt_zero, Int.dvd_iff_tmod_eq_zero]

/-- The machine test and divisibility agree on every pair of integers. -/
theorem rem_beq_zero (n divisor : Int64) : (n % divisor == 0) = divides divisor n := by
  rw [divides, Bool.eq_iff_iff, beq_iff_eq, decide_eq_true_iff]
  exact rem_eq_zero_iff_dvd n divisor

theorem multiplesOf_zero (numbers : List Int64) : multiplesOf 0 numbers = .error .divisionByZero := rfl

/-- **The filter keeps the multiples, in order and with repetition.** -/
theorem multiplesOf_eq_ok {divisor : Int64} (h : divisor ≠ 0) (numbers : List Int64) :
    multiplesOf divisor numbers = .ok (numbers.filter (divides divisor)) := by
  rw [multiplesOf, if_neg h, Except.ok.injEq]
  refine List.filter_congr fun n _ => ?_
  exact rem_beq_zero n divisor

/-! ### Order and repetition -/

theorem count_filter_eq (kind : Int64 → Bool) (numbers : List Int64) (n : Int64) :
    (numbers.filter kind).count n = if kind n = true then numbers.count n else 0 := by
  by_cases hn : kind n = true
  · rw [if_pos hn, List.count_filter hn]
  · rw [if_neg hn]
    exact List.count_eq_zero_of_not_mem fun hmem => hn (List.mem_filter.1 hmem).2

/-- A sublist that holds each integer of a kind as often as the list does, and no other integer, is what the filter
keeps: there is no second way to leave out the others. -/
theorem eq_filter_of_count {kind : Int64 → Bool} {numbers kept : List Int64} (hsub : kept.Sublist numbers)
    (hcount : ∀ n, kept.count n = if kind n = true then numbers.count n else 0) : kept = numbers.filter kind := by
  have hperm : kept.Perm (numbers.filter kind) := by
    refine List.perm_iff_count.2 fun n => ?_
    rw [hcount n, count_filter_eq]
  have hkind : kept.filter kind = kept := by
    refine List.filter_eq_self.2 fun n hn => ?_
    have hpos : 0 < kept.count n := List.count_pos_iff.2 hn
    rw [hcount n] at hpos
    split at hpos
    · assumption
    · omega
  have hfiltered : (kept.filter kind).Sublist (numbers.filter kind) := hsub.filter kind
  rw [hkind] at hfiltered
  exact hfiltered.eq_of_length hperm.length_eq

/-- **What is kept is told without the filter:** a sublist with every multiple as often as the list has it, and nothing
else.  There is one exactly if the divisor is not zero. -/
theorem multiplesOf_eq_ok_iff {divisor : Int64} {numbers kept : List Int64} :
    multiplesOf divisor numbers = .ok kept ↔ divisor ≠ 0 ∧ kept.Sublist numbers
      ∧ ∀ n, kept.count n = if divisor.toInt ∣ n.toInt then numbers.count n else 0 := by
  have hkind : ∀ n, (divides divisor n = true) = (divisor.toInt ∣ n.toInt) := fun n => decide_eq_true_eq
  constructor
  · intro hkept
    have hdivisor : divisor ≠ 0 := by
      rintro rfl
      rw [multiplesOf_zero] at hkept
      exact nomatch hkept
    rw [multiplesOf_eq_ok hdivisor, Except.ok.injEq] at hkept
    subst hkept
    refine ⟨hdivisor, List.filter_sublist, fun n => ?_⟩
    rw [count_filter_eq]
    simp only [hkind]
  · rintro ⟨hdivisor, hsub, hcount⟩
    simp only [← hkind] at hcount
    rw [multiplesOf_eq_ok hdivisor, ← eq_filter_of_count hsub hcount]

/-! ### Signs -/

theorem divides_neg {divisor opposite : Int64} (h : opposite.toInt = -divisor.toInt) :
    divides opposite = divides divisor := by
  funext n
  rw [divides, divides, h, Bool.eq_iff_iff]
  simp only [decide_eq_true_eq, Int.neg_dvd]

/-- **The sign of a divisor does not matter**, where the opposite of the divisor is a 64-bit integer. -/
theorem multiplesOf_neg {divisor opposite : Int64} (h : opposite.toInt = -divisor.toInt) (numbers : List Int64) :
    multiplesOf opposite numbers = multiplesOf divisor numbers := by
  by_cases hzero : divisor = 0
  · subst hzero
    have hopposite : opposite = 0 := Int64.toInt_inj.1 h
    rw [hopposite]
  · have hopposite : opposite ≠ 0 := by
      rintro rfl
      rw [Int64.toInt_zero] at h
      exact hzero (Int64.toInt_inj.1 (show divisor.toInt = Int64.toInt 0 by rw [Int64.toInt_zero]; omega))
    rw [multiplesOf_eq_ok hopposite, multiplesOf_eq_ok hzero, divides_neg h]

/-! ### Two divisors -/

/-- **One divisor after another keeps what both divide.** -/
theorem multiplesOf_multiplesOf {first second : Int64} (hfirst : first ≠ 0) (hsecond : second ≠ 0)
    (numbers : List Int64) : (multiplesOf first numbers >>= multiplesOf second)
      = .ok (numbers.filter fun n => divides first n && divides second n) := by
  rw [multiplesOf_eq_ok hfirst]
  show multiplesOf second (numbers.filter (divides first)) = _
  rw [multiplesOf_eq_ok hsecond, List.filter_filter]
  refine congrArg Except.ok (List.filter_congr fun n _ => ?_)
  exact Bool.and_comm _ _

/-! ### Main statement -/

/-- **The filter is exact on all 64-bit integers.**  For a divisor other than zero it keeps the multiples in the sense of
unbounded integers, and what it keeps is the one sublist that holds every multiple as often as the list does.  A divisor
and its opposite keep the same.  Two divisors keep, in either order, what both divide.  Zero is refused for every list. -/
theorem multiplesOf_exact (numbers : List Int64) :
    (∀ divisor : Int64, divisor ≠ 0 →
      multiplesOf divisor numbers = .ok (numbers.filter fun n => decide (divisor.toInt ∣ n.toInt)))
    ∧ (∀ (divisor : Int64) (kept : List Int64), multiplesOf divisor numbers = .ok kept ↔
        divisor ≠ 0 ∧ kept.Sublist numbers
          ∧ ∀ n, kept.count n = if divisor.toInt ∣ n.toInt then numbers.count n else 0)
    ∧ (∀ divisor opposite : Int64, opposite.toInt = -divisor.toInt →
        multiplesOf opposite numbers = multiplesOf divisor numbers)
    ∧ (∀ first second : Int64, first ≠ 0 → second ≠ 0 →
        (multiplesOf first numbers >>= multiplesOf second) = (multiplesOf second numbers >>= multiplesOf first)
        ∧ (multiplesOf first numbers >>= multiplesOf second)
          = .ok (numbers.filter fun n => decide (first.toInt ∣ n.toInt ∧ second.toInt ∣ n.toInt)))
    ∧ multiplesOf 0 numbers = .error .divisionByZero := by
  refine ⟨fun divisor hdivisor => ?_, fun divisor kept => ?_, fun divisor opposite hopposite => ?_,
    fun first second hfirst hsecond => ⟨?_, ?_⟩, multiplesOf_zero numbers⟩
  · exact multiplesOf_eq_ok hdivisor numbers
  · exact multiplesOf_eq_ok_iff
  · exact multiplesOf_neg hopposite numbers
  · rw [multiplesOf_multiplesOf hfirst hsecond, multiplesOf_multiplesOf hsecond hfirst]
    refine congrArg Except.ok (List.filter_congr fun n _ => ?_)
    exact Bool.and_comm _ _
  · rw [multiplesOf_multiplesOf hfirst hsecond]
    refine congrArg Except.ok (List.filter_congr fun n _ => ?_)
    simp only [divides, Bool.decide_and]

/-- At the limits: the one quotient that overflows leaves no remainder, so that minus one keeps everything, as one does;
and what is kept of the least integer and its neighbours is divided by both divisors. -/
theorem multiplesOf_exact_at_limits :
    let numbers : List Int64 := [Int64.minValue, 3, Int64.maxValue, 0, Int64.minValue]
    multiplesOf (-1) numbers = .ok numbers
    ∧ multiplesOf 1 numbers = .ok numbers
    ∧ (multiplesOf (-1) numbers >>= multiplesOf Int64.minValue) = .ok [Int64.minValue, 0, Int64.minValue] := by
  intro numbers
  obtain ⟨hkept, -, hopposite, hboth, -⟩ := multiplesOf_exact numbers
  have hminus : multiplesOf (-1) numbers = .ok numbers := by
    rw [hkept (-1) (by decide)]
    refine congrArg Except.ok (List.filter_eq_self.2 fun n _ => ?_)
    simp
  refine ⟨hminus, ?_, ?_⟩
  · rw [← hopposite 1 (-1) (by decide), hminus]
  · rw [(hboth (-1) Int64.minValue (by decide) (by decide)).2, Except.ok.injEq]
    decide

end Multiples
