import Multiples.Text.Basic

/-!
# Path patterns

The path of a service is a pattern for the paths that requests ask for.  A name between braces is a placeholder, which
stands for the rest of a segment or, with an asterisk before the name, for the rest of the path; neither may be empty.
A brace that is written twice stands for itself.

* `PathPattern.ofText?` is the pattern that a text is, unless its braces make no sense;
* `PathPattern.fits` says whether a path fits a pattern;
* `PathPattern.ofText?_doubled` — any path can be meant literally, by writing its braces twice; a path without braces is
  meant so as it is (`PathPattern.isLiteral`, `PathPattern.ofText?_of_isLiteral`);
* `PathPattern.fits_chars` — what is meant literally fits itself alone.
-/

namespace Multiples

/-- What a placeholder stands for. -/
inductive Placeholder where
  | segment
  | rest
deriving DecidableEq, Repr

/-- A part of a pattern: a character that stands for itself, or a placeholder. -/
inductive PatternPart where
  | char (c : Char)
  | any (p : Placeholder)
deriving DecidableEq, Repr

/-- A pattern for paths. -/
abbrev PathPattern := List PatternPart

namespace PathPattern

/-! ### Braces -/

/-- A sign of a pattern: a brace of a placeholder, or a character that stands for itself. -/
inductive Sign where
  | opening
  | closing
  | char (c : Char)
deriving DecidableEq, Repr

/-- The signs of a text, from left to right: two braces of a kind are one that stands for itself. -/
def signs : Text → List Sign
  | '\x7b' :: '\x7b' :: s => .char '\x7b' :: signs s
  | '\x7d' :: '\x7d' :: s => .char '\x7d' :: signs s
  | '\x7b' :: s => .opening :: signs s
  | '\x7d' :: s => .closing :: signs s
  | c :: s => .char c :: signs s
  | [] => []

/-! ### Placeholders -/

/-- Where a reader of signs is: outside of any placeholder, after its opening brace, after the asterisk there, in its
name, or after its closing brace. -/
inductive Place where
  | outside
  | opened
  | starred
  | named (p : Placeholder)
  | closed (p : Placeholder)
deriving DecidableEq, Repr

/-- Where one more sign leads, and the parts that it completes.  A name is not empty, and there is no asterisk and no slash
in it; only right after the opening brace a slash is a character like any other, and there no brace that closes may
stand, not even one that stands for itself.  A segment ends with its placeholder, and the path with a placeholder for its
rest. -/
def Place.next : Place → Sign → Option (Place × PathPattern)
  | .outside, .char c => some (.outside, [.char c])
  | .outside, .opening => some (.opened, [])
  | .outside, .closing => none
  | .opened, .closing => none
  | .opened, .opening => some (.named .segment, [])
  | .opened, .char c =>
    if c = '\x7d' then none else if c = '*' then some (.starred, []) else some (.named .segment, [])
  | .starred, .closing => none
  | .starred, .opening => some (.named .rest, [])
  | .starred, .char c => if c = '*' ∨ c = '/' then none else some (.named .rest, [])
  | .named p, .closing => some (.closed p, [.any p])
  | .named p, .opening => some (.named p, [])
  | .named p, .char c => if c = '*' ∨ c = '/' then none else some (.named p, [])
  | .closed .segment, .char c => if c = '/' then some (.outside, [.char c]) else none
  | .closed _, _ => none

/-- Whether a pattern can end at a place. -/
def Place.isEnd : Place → Bool
  | .outside => true
  | .closed _ => true
  | _ => false

/-- Reads signs from a place on. -/
def readOn : Place → List Sign → Option PathPattern
  | place, [] => if place.isEnd then some [] else none
  | place, sign :: more => (place.next sign).bind fun next => (readOn next.1 more).map (next.2 ++ ·)

/-- The greatest number of placeholders for segments. -/
def segmentLimit : Nat := 25

/-- The pattern that a text is. -/
def ofText? (s : Text) : Option PathPattern :=
  (readOn .outside (signs s)).filter fun p => p.count (.any .segment) ≤ segmentLimit

/-! ### Paths that fit -/

/-- Whether a path fits a pattern. -/
def fits : PathPattern → Text → Bool
  | [], path => path.isEmpty
  | .char _ :: _, [] => false
  | .char c :: more, d :: path => c = d && fits more path
  | .any .segment :: more, path =>
    !(path.takeWhile (· != '/')).isEmpty && fits more (path.dropWhile (· != '/'))
  | .any .rest :: _, path => !path.isEmpty

/-! ### What is meant literally -/

/-- A text with its braces written twice. -/
def doubled (s : Text) : Text := s.flatMap fun c => if c = '\x7b' ∨ c = '\x7d' then [c, c] else [c]

/-- Whether a text has no braces. -/
def isLiteral (s : Text) : Bool := s.all fun c => c != '\x7b' && c != '\x7d'

variable {s path : Text}

theorem isLiteral_iff : isLiteral s = true ↔ '\x7b' ∉ s ∧ '\x7d' ∉ s := by
  simp only [isLiteral, List.all_eq_true, Bool.and_eq_true, bne_iff_ne]
  constructor
  · intro h
    exact ⟨fun hopen => (h _ hopen).1 rfl, fun hclose => (h _ hclose).2 rfl⟩
  · intro h c hc
    exact ⟨fun hopen => h.1 (hopen ▸ hc), fun hclose => h.2 (hclose ▸ hc)⟩

theorem doubled_cons (c : Char) (s : Text) :
    doubled (c :: s) = (if c = '\x7b' ∨ c = '\x7d' then [c, c] else [c]) ++ doubled s := List.flatMap_cons

theorem signs_doubled (s : Text) : signs (doubled s) = s.map .char := by
  induction s with
  | nil => rfl
  | cons c s ih =>
    rw [doubled_cons, List.map_cons, ← ih]
    by_cases hopen : c = '\x7b'
    · subst hopen
      rfl
    by_cases hclose : c = '\x7d'
    · subst hclose
      rfl
    · rw [if_neg (not_or.2 ⟨hopen, hclose⟩)]
      simp [signs, hopen, hclose]

theorem doubled_of_isLiteral (h : isLiteral s = true) : doubled s = s := by
  induction s with
  | nil => rfl
  | cons c s ih =>
    rw [isLiteral, List.all_cons, Bool.and_eq_true] at h
    have hc : ¬ (c = '\x7b' ∨ c = '\x7d') := by simpa using h.1
    rw [doubled_cons, if_neg hc, ih h.2]
    rfl

theorem readOn_chars (s : Text) : readOn .outside (s.map .char) = some (s.map .char) := by
  induction s with
  | nil => rfl
  | cons c s ih =>
    show (readOn .outside (s.map .char)).map ([.char c] ++ ·) = _
    rw [ih]
    rfl

/-- **Any text can be meant literally**, by writing its braces twice. -/
theorem ofText?_doubled (s : Text) : ofText? (doubled s) = some (s.map .char) := by
  have hnone : (s.map PatternPart.char).count (.any .segment) = 0 := by
    apply List.count_eq_zero.2
    simp
  rw [ofText?, signs_doubled, readOn_chars, Option.filter_some, hnone]
  rfl

/-- A text without braces is meant literally as it is. -/
theorem ofText?_of_isLiteral (h : isLiteral s = true) : ofText? s = some (s.map .char) := by
  rw [← ofText?_doubled s, doubled_of_isLiteral h]

/-- **What is meant literally fits itself alone.** -/
theorem fits_chars : fits (s.map .char) path = true ↔ path = s := by
  induction s generalizing path with
  | nil => exact List.isEmpty_iff
  | cons c s ih =>
    cases path with
    | nil => simp [fits]
    | cons d path =>
      rw [List.map_cons, fits, Bool.and_eq_true, decide_eq_true_eq, ih, List.cons.injEq, eq_comm (a := c)]

example : ((ofText? "/a/\x7bid\x7d/b".toList).map fun p => (p.fits "/a/x/b".toList, p.fits "/a//b".toList))
    = some (true, false) := by decide

example : ((ofText? "/\x7b\x7bid\x7d\x7d".toList).map fun p => (p.fits "/\x7bid\x7d".toList, p.fits "/x".toList))
    = some (true, false) := by decide

example : ofText? "/\x7b".toList = none := by decide

end PathPattern

end Multiples
