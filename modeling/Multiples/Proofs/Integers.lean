import Multiples.Envelope.Request
import Multiples.Proofs.Cells
import Multiples.Proofs.Stages

/-!
# Integers on the wire

A list of integers travels as decimal texts with commas between them; requests have a bare comma, replies a
comma and a blank.  One reader takes both apart: it cuts at every comma and trims each token.

* `Decimal.int64?_ofInt64` — every 64-bit integer is read back from its decimal text, the two ends of the range
  included;
* `Envelope.readInts_cells_joined` — a written list of at least one integer is read back, with any blanks after
  the commas.
-/

namespace Multiples

namespace Text

/-! ### Trimming -/

theorem dropWhile_eq_self {kind : Char → Bool} {s : Text} (h : ∀ c ∈ s, kind c = false) : s.dropWhile kind = s := by
  cases s with
  | nil => rfl
  | cons c s =>
    have hc : kind c = false := h c List.mem_cons_self
    rw [List.dropWhile_cons_of_neg (by simp [hc])]

/-- A text without blanks is left as it is. -/
theorem trim_eq_self {s : Text} (h : ∀ c ∈ s, isBlank c = false) : trim s = s := by
  rw [trim, dropWhile_eq_self h, dropWhile_eq_self fun c hc => h c (List.mem_reverse.1 hc), List.reverse_reverse]

/-- Blanks in front are trimmed away. -/
theorem trim_append {pad : Text} (hpad : ∀ c ∈ pad, isBlank c = true) (s : Text) : trim (pad ++ s) = trim s := by
  rw [trim, List.dropWhile_append_of_pos hpad, trim]

end Text

namespace Decimal

/-! ### Decimal texts -/

theorem toNat_of_isDigit {c : Char} (h : c.isDigit = true) : 48 ≤ c.toNat ∧ c.toNat ≤ 57 := by
  simpa [Char.isDigit, UInt32.le_iff_toNat_le] using h

theorem isBlank_of_isDigit {c : Char} (h : c.isDigit = true) : Text.isBlank c = false := by
  have hrange := toNat_of_isDigit h
  rw [Text.isBlank, Bool.eq_false_iff]
  intro hblank
  obtain ⟨range, hmem, hlow, hhigh⟩ := CharTable.has_iff.1 hblank
  -- the only ranges of blanks that begin below the digits end below them too
  simp only [Text.whiteSpace, List.mem_cons, List.not_mem_nil, or_false] at hmem
  rcases hmem with rfl | rfl | rfl | rfl | rfl | rfl | rfl | rfl | rfl | rfl <;> simp only at hlow hhigh <;> omega

/-- A decimal text is made of digits, with a sign at most. -/
theorem mem_ofInt {i : Int} {c : Char} (h : c ∈ ofInt i) : c = '-' ∨ c.isDigit = true := by
  rw [ofInt] at h
  split at h
  · rcases List.mem_cons.1 h with hsign | hdigit
    · exact Or.inl hsign
    · exact Or.inr (isDigit_of_mem_ofNat hdigit)
  · exact Or.inr (isDigit_of_mem_ofNat h)

theorem not_isBlank_of_mem_ofInt {i : Int} {c : Char} (h : c ∈ ofInt i) : Text.isBlank c = false := by
  rcases mem_ofInt h with rfl | hdigit
  · decide
  · exact isBlank_of_isDigit hdigit

theorem not_mem_ofInt {c : Char} (hsign : c ≠ '-') (hdigit : c.isDigit = false) (i : Int) : c ∉ ofInt i := by
  intro h
  rcases mem_ofInt h with hc | hc
  · exact hsign hc
  · rw [hdigit] at hc
    exact Bool.false_ne_true hc

/-- No decimal text has a comma, so that commas can stand between decimal texts. -/
theorem comma_not_mem_map_ofInt64 (ns : List Int64) : ∀ c ∈ ns.map ofInt64, ',' ∉ c := by
  intro c hc
  obtain ⟨n, -, rfl⟩ := List.mem_map.1 hc
  exact not_mem_ofInt (by decide) (by decide) n.toInt

theorem ofInt_ne_nil (i : Int) : ofInt i ≠ [] := by
  rw [ofInt]
  split
  · exact List.cons_ne_nil _ _
  · exact ofNat_ne_nil _

theorem int?_minus (s : Text) : int? ('-' :: s) = (nat? s).map fun n : Nat => -(n : Int) := by
  rw [int?]
  cases nat? s <;> rfl

theorem int?_plus (s : Text) : int? ('+' :: s) = (nat? s).map fun n : Nat => (n : Int) := by
  rw [int?]
  cases nat? s <;> rfl

theorem int?_of_unsigned {s : Text} (hminus : ∀ t, s ≠ '-' :: t) (hplus : ∀ t, s ≠ '+' :: t) :
    int? s = (nat? s).map fun n : Nat => (n : Int) := by
  rw [int?]
  · cases nat? s <;> rfl
  · exact hminus
  · exact hplus

/-- Digits alone are read as what they are, without a sign. -/
theorem int?_of_isDigit {s : Text} (h : ∀ c ∈ s, c.isDigit = true) :
    int? s = (nat? s).map fun n : Nat => (n : Int) := by
  refine int?_of_unsigned (fun t hsame => ?_) fun t hsame => ?_
  · subst hsame
    exact absurd (h '-' List.mem_cons_self) (by decide)
  · subst hsame
    exact absurd (h '+' List.mem_cons_self) (by decide)

theorem int?_ofNat (n : Nat) : int? (ofNat n) = some (n : Int) := by
  rw [int?_of_isDigit fun c h => isDigit_of_mem_ofNat h, nat?_ofNat]
  rfl

theorem int?_ofInt (i : Int) : int? (ofInt i) = some i := by
  rw [ofInt]
  split
  · rename_i hneg
    rw [int?_minus, nat?_ofNat]
    show some (-(i.natAbs : Int)) = some i
    rw [Option.some.injEq]
    omega
  · rename_i hpos
    rw [int?_ofNat, Option.some.injEq]
    omega

theorem fitsInt64_toInt (n : Int64) : fitsInt64 n.toInt = true := by
  have hlow : -0x8000000000000000 ≤ n.toInt := n.le_toInt
  have hhigh : n.toInt < 0x8000000000000000 := n.toInt_lt
  rw [fitsInt64, decide_eq_true hlow, decide_eq_true hhigh]
  rfl

/-- **Every 64-bit integer is read back.** -/
theorem int64?_ofInt64 (n : Int64) : int64? (ofInt64 n) = some n := by
  rw [int64?, ofInt64, int?_ofInt, Option.bind_some, if_pos (fitsInt64_toInt n), Int64.ofInt_toInt]

end Decimal

namespace Envelope

variable {tag : Text}

/-! ### When reading fails -/

theorem readInt_eq_ok_iff {token : Text} {n : Int64} :
    readInt tag token = .ok n ↔ Decimal.int64? token.trim = some n := by
  rw [readInt]
  cases Decimal.int64? token.trim <;> simp

/-- Whether a token stands for an integer, blanks around it aside. -/
def isInteger (token : Text) : Bool := (Decimal.int64? token.trim).isSome

theorem exists_readInt_eq_ok_iff {token : Text} : (∃ n, readInt tag token = .ok n) ↔ isInteger token = true := by
  simp only [isInteger, Option.isSome_iff_exists, readInt_eq_ok_iff]

theorem readInt_eq_error_iff {token : Text} {e : DecodeError} :
    readInt tag token = .error e ↔ isInteger token = false ∧ e = .invalidNumber tag token.trim := by
  rw [readInt, isInteger]
  cases Decimal.int64? token.trim with
  | some n => simp
  | none => simp [eq_comm]

/-- A row of tokens cannot be read for its first token, or else for the others. -/
theorem readInts_cons_eq_error_iff {first : Text} {more : List Text} {e : DecodeError} :
    readInts tag (first :: more) = .error e
      ↔ readInt tag first = .error e ∨ isInteger first = true ∧ readInts tag more = .error e := by
  have hrest : ∀ n, (do let ns ← readInts tag more; pure (n :: ns) : Except DecodeError (List Int64)) = .error e
      ↔ readInts tag more = .error e := by
    intro n
    rw [Stages.bind_eq_error_iff]
    exact or_iff_left fun ⟨_, _, h⟩ => nomatch h
  rw [readInts, Stages.bind_eq_error_iff]
  simp only [hrest, exists_and_right, exists_readInt_eq_ok_iff]

/-- **Reading fails at the first token that is no integer**, and names that token. -/
theorem readInts_eq_error_iff {tokens : List Text} {e : DecodeError} :
    readInts tag tokens = .error e ↔ ∃ before token after, tokens = before ++ token :: after
      ∧ before.all isInteger = true ∧ isInteger token = false ∧ e = .invalidNumber tag token.trim := by
  induction tokens with
  | nil => simp [readInts]
  | cons first more ih =>
    rw [readInts_cons_eq_error_iff, readInt_eq_error_iff, ih]
    constructor
    · intro hcases
      rcases hcases with ⟨hbad, rfl⟩ | ⟨hgood, before, token, after, rfl, hall, hbad, rfl⟩
      · exact ⟨[], first, more, rfl, rfl, hbad, rfl⟩
      · exact ⟨first :: before, token, after, rfl, by rw [List.all_cons, hgood, hall]; rfl, hbad, rfl⟩
    · intro hgiven
      obtain ⟨before, token, after, hlist, hall, hbad, rfl⟩ := hgiven
      cases before with
      | nil =>
        cases hlist
        exact Or.inl ⟨hbad, rfl⟩
      | cons t before =>
        cases hlist
        rw [List.all_cons, Bool.and_eq_true] at hall
        exact Or.inr ⟨hall.1, before, token, after, rfl, hall.2, hbad, rfl⟩

/-- A list of integers cannot be read exactly if its field is there and holds a token that is none. -/
theorem intListField_eq_error_iff {doc : Text} {missing : List Int64} {e : DecodeError} :
    intListField doc tag missing = .error e
      ↔ ∃ raw, field? doc tag = some raw ∧ readInts tag ((Markup.unescape raw).cells ',') = .error e := by
  rw [intListField]
  cases field? doc tag <;> simp

theorem intField_eq_error_iff {doc : Text} {missing : Int64} {e : DecodeError} :
    intField doc tag missing = .error e
      ↔ ∃ raw, field? doc tag = some raw ∧ readInt tag (Markup.unescape raw) = .error e := by
  rw [intField]
  cases field? doc tag <;> simp

/-! ### Lists of integers -/

/-- A written integer is read back, with any blanks before it. -/
theorem readInt_append_ofInt64 {pad : Text} (hpad : ∀ c ∈ pad, Text.isBlank c = true) (n : Int64) :
    readInt tag (pad ++ Decimal.ofInt64 n) = .ok n := by
  have htrim : Text.trim (pad ++ Decimal.ofInt64 n) = Decimal.ofInt64 n := by
    rw [Text.trim_append hpad]
    exact Text.trim_eq_self fun c hc => Decimal.not_isBlank_of_mem_ofInt hc
  rw [readInt, htrim, Decimal.int64?_ofInt64]

theorem readInt_ofInt64 (n : Int64) : readInt tag (Decimal.ofInt64 n) = .ok n :=
  readInt_append_ofInt64 (List.forall_mem_nil _) n

theorem readInts_cons {token : Text} {more : List Text} {n : Int64} {ns : List Int64}
    (hn : readInt tag token = .ok n) (hns : readInts tag more = .ok ns) :
    readInts tag (token :: more) = .ok (n :: ns) := by
  rw [readInts, hn]
  show (readInts tag more).bind _ = _
  rw [hns]
  rfl

theorem readInts_map_ofInt64 {pad : Text} (hpad : ∀ c ∈ pad, Text.isBlank c = true) (ns : List Int64) :
    readInts tag ((ns.map Decimal.ofInt64).map (pad ++ ·)) = .ok ns := by
  induction ns with
  | nil => rfl
  | cons n ns ih => exact readInts_cons (readInt_append_ofInt64 hpad n) ih

theorem joined_eq_nil {sep : Text} {ns : List Int64} : joined sep ns = [] ↔ ns = [] := by
  match ns with
  | [] => simp [joined, Text.glue]
  | [n] => simp [joined, Text.glue, Decimal.ofInt64, Decimal.ofInt_ne_nil]
  | n :: m :: ns => simp [joined, Text.glue, Decimal.ofInt64, Decimal.ofInt_ne_nil]

/-- **A written list of integers is read back**, with any blanks after the commas. -/
theorem readInts_cells_joined {pad : Text} (hpad : ∀ c ∈ pad, Text.isBlank c = true) (n : Int64) (ns : List Int64) :
    readInts tag ((joined (',' :: pad) (n :: ns)).cells ',') = .ok (n :: ns) := by
  have hcomma : ',' ∉ pad := fun h => absurd (hpad ',' h) (by decide)
  rw [joined, List.map_cons, Text.cells_glue hcomma (Decimal.comma_not_mem_map_ofInt64 (n :: ns))]
  exact readInts_cons (readInt_ofInt64 n) (readInts_map_ofInt64 hpad ns)

end Envelope

end Multiples
