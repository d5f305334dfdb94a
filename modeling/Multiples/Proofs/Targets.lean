import Multiples.Http.Target
import Multiples.Proofs.Search

/-!
# What a target asks for

A target is read from the left: what it begins with says which form it has, and its path ends at the first question
mark or number sign.  Behind these, marks may come in any order; only what is before a number sign counts as a query.

* `Target.Tail` — what may follow a path, and `Target.pathBefore?_eq_some_iff` — where the path ends;
* `Target.Asks` — the forms of targets, each with the path that it asks for;
* `Target.path?_eq_some_iff` — **the path of a target is the one that its form asks for**, and a target without a form
  has none;
* `Target.path?_bare` — what follows the path has no part in it.
-/

namespace Multiples

namespace Target

variable {path tail : Text}

/-! ### Characters -/

/-- Whether a character can stand before a query and a fragment. -/
abbrev beforeTail (c : Char) : Bool := c != '?' && c != '#'

/-- Whether a character can stand before a path, a query and a fragment. -/
abbrev beforePath (c : Char) : Bool := c != '/' && c != '?' && c != '#'

theorem beforePath_eq (c : Char) : beforePath c = (c != '/' && beforeTail c) := Bool.and_assoc _ _ _

/-- The characters after the blank that no path can hold. -/
def unnameable : List Char := ['#', '<', '>', '?', '\x60', '\x7f']

theorem isPathChar_iff {c : Char} : isPathChar c = true ↔ 0x20 < c.toNat ∧ c ∉ unnameable := by
  simp only [isPathChar, between, unnameable, List.mem_cons, List.not_mem_nil, or_false, Bool.or_eq_true,
    Bool.and_eq_true, decide_eq_true_eq, ← Char.toNat_inj]
  simp only [Char.reduceToNat]
  omega

theorem inside_of_isPathChar {c : Char} (h : isPathChar c = true) : beforeTail c = true := by
  have hmark := (isPathChar_iff.1 h).2
  simp only [unnameable, List.mem_cons, not_or] at hmark
  simp [hmark.1, hmark.2.2.2.1]

theorem all_beforeTail (h : path.all isPathChar = true) : path.all beforeTail = true :=
  List.all_eq_true.2 fun c hc => inside_of_isPathChar (List.all_eq_true.1 h c hc)

theorem ne_hash_of_isQueryChar {c : Char} (h : isQueryChar c = true) : (c != '#') = true := by
  rw [bne_iff_ne]
  rintro rfl
  exact absurd h (by decide)

/-! ### Paths and what follows them -/

/-- What may follow a path: nothing, a query, a fragment, or a query with a fragment.  A fragment may hold anything. -/
inductive Tail : Text → Prop
  | nothing : Tail []
  | query {query : Text} (hquery : query.all isQueryChar = true) : Tail ('?' :: query)
  | fragment (fragment : Text) : Tail ('#' :: fragment)
  | both {query : Text} (hquery : query.all isQueryChar = true) (fragment : Text) : Tail ('?' :: (query ++ '#' :: fragment))

/-- What follows a path begins with a mark that no path holds. -/
theorem Tail.head (h : Tail tail) (c : Char) (hc : tail.head? = some c) : beforeTail c = false := by
  cases h with
  | nothing => cases hc
  | query _ | fragment _ | both _ _ =>
    cases hc
    decide

theorem eq_mark {c : Char} (h : beforeTail c = false) : c = '?' ∨ c = '#' := by
  rwa [Bool.and_eq_false_iff, bne_eq_false_iff_eq, bne_eq_false_iff_eq] at h

/-- The path ends where its tail begins. -/
theorem pathBefore?_append (hpath : path.all isPathChar = true) (htail : Tail tail) :
    pathBefore? (path ++ tail) = some path := by
  have hinside : path.all beforeTail = true := all_beforeTail hpath
  have hnoHash {query : Text} (h : query.all isQueryChar = true) : query.all (· != '#') = true :=
    List.all_eq_true.2 fun c hc => ne_hash_of_isQueryChar (List.all_eq_true.1 h c hc)
  rw [pathBefore?, Text.takeWhile_run hinside htail.head, Text.dropWhile_run hinside htail.head]
  cases htail with
  | nothing => simp [hpath]
  | query hquery => simp [hpath, hquery, Text.takeWhile_all (hnoHash hquery)]
  | fragment fragment => simp [hpath]
  | both hquery fragment =>
    have hends : ∀ c, ('#' :: fragment).head? = some c → (c != '#') = false := by
      intro c hc
      cases hc
      decide
    simp [hpath, hquery, Text.takeWhile_run (hnoHash hquery) hends]

/-- **A text has a path exactly if it is that path with a tail.** -/
theorem pathBefore?_eq_some_iff {s : Text} :
    pathBefore? s = some path ↔ path.all isPathChar = true ∧ ∃ tail, Tail tail ∧ s = path ++ tail := by
  constructor
  · intro h
    obtain ⟨front, rest, rfl, hfront, hends⟩ := Text.exists_run beforeTail s
    rw [pathBefore?, Text.takeWhile_run hfront hends, Text.dropWhile_run hfront hends] at h
    simp only [Option.ite_none_right_eq_some, Bool.and_eq_true] at h
    obtain ⟨⟨hpath, hquery⟩, hsame⟩ := h
    obtain rfl := Option.some.inj hsame
    refine ⟨hpath, rest, ?_, rfl⟩
    cases rest with
    | nil => exact .nothing
    | cons mark more =>
      rcases eq_mark (hends mark rfl) with rfl | rfl
      · -- behind a question mark there is a query, up to a number sign
        obtain ⟨query, after, rfl, hnoHash, hafter⟩ := Text.exists_run (· != '#') more
        simp only [Text.takeWhile_run hnoHash hafter] at hquery
        cases after with
        | nil =>
          rw [List.append_nil]
          exact .query hquery
        | cons hash fragment =>
          obtain rfl : hash = '#' := by simpa using hafter hash rfl
          exact .both hquery fragment
      · exact .fragment more
  · rintro ⟨hpath, tail, htail, rfl⟩
    exact pathBefore?_append hpath htail

theorem pathBefore?_tail (htail : Tail tail) : pathBefore? tail = some [] := by
  have hnone : ([] : Text).all isPathChar = true := rfl
  exact pathBefore?_append hnone htail

/-! ### Authorities and schemes -/

/-- The marks that end an authority are no part of one. -/
theorem Seen.add_mark (seen : Seen) {c : Char} (h : beforePath c = false) : seen.add c = none := by
  rw [Bool.and_eq_false_iff, Bool.and_eq_false_iff, bne_eq_false_iff_eq, bne_eq_false_iff_eq, bne_eq_false_iff_eq] at h
  rcases h with (rfl | rfl) | rfl <;> rfl

theorem inside_of_foldlM {s : Text} {seen final : Seen} (h : s.foldlM Seen.add seen = some final) :
    s.all beforePath = true := by
  induction s generalizing seen with
  | nil => rfl
  | cons c s ih =>
    rw [List.foldlM_cons] at h
    obtain ⟨next, hnext, hmore⟩ := Option.bind_eq_some_iff.1 h
    have hc : beforePath c = true := by
      rw [← Bool.not_eq_false]
      intro hmark
      rw [Seen.add_mark seen hmark] at hnext
      cases hnext
    rw [List.all_cons, hc, ih hmore]
    rfl

theorem inside_of_isAuthority {s : Text} (h : isAuthority s = true) :
    s.all beforePath = true := by
  rw [isAuthority] at h
  split at h
  · rename_i seen hseen
    exact inside_of_foldlM hseen
  · cases h

/-- An authority ends at a slash or where a tail begins. -/
theorem authority?_eq_some_iff {s authority rest : Text} : authority? s = some (authority, rest)
    ↔ isAuthority authority = true ∧ s = authority ++ rest
      ∧ ∀ c, rest.head? = some c → beforePath c = false := by
  constructor
  · intro h
    obtain ⟨front, after, rfl, hfront, hends⟩ := Text.exists_run beforePath s
    rw [authority?] at h
    simp only [Text.takeWhile_run hfront hends, Text.dropWhile_run hfront hends, Option.ite_none_right_eq_some] at h
    obtain ⟨hauthority, hsame⟩ := h
    cases hsame
    exact ⟨hauthority, rfl, hends⟩
  · rintro ⟨hauthority, rfl, hends⟩
    have hinside := inside_of_isAuthority hauthority
    rw [authority?]
    simp only [Text.takeWhile_run hinside hends, Text.dropWhile_run hinside hends, if_pos hauthority]

/-- A path that stands where an authority ends begins with the slash that ends it. -/
theorem head?_of_ends (hne : path ≠ []) (hpath : path.all isPathChar = true)
    (hends : ∀ c, (path ++ tail).head? = some c → beforePath c = false) : path.head? = some '/' := by
  obtain ⟨c, more, rfl⟩ := List.exists_cons_of_ne_nil hne
  have hinside := inside_of_isPathChar (List.all_eq_true.1 hpath c List.mem_cons_self)
  have hc := hends c rfl
  rw [beforePath_eq, hinside, Bool.and_true, bne_eq_false_iff_eq] at hc
  rw [hc, List.head?_cons]

/-- What stands before the path of an absolute address: a scheme and an authority. -/
inductive Base : Text → Prop
  | mk {scheme authority : Text} (hscheme : scheme.all isSchemeChar = true) (hlength : scheme.length ≤ 64)
      (hauthority : isAuthority authority = true) (hsome : authority ≠ []) :
      Base (scheme ++ ':' :: '/' :: '/' :: authority)

theorem colon_ends (s : Text) (c : Char) (hc : (':' :: s).head? = some c) : isSchemeChar c = false := by
  cases hc
  decide

theorem afterScheme_append {scheme : Text} (hscheme : scheme.all isSchemeChar = true) (rest : Text) :
    afterScheme (scheme ++ ':' :: '/' :: '/' :: rest) = some rest := by
  rw [afterScheme, Text.dropWhile_run hscheme (colon_ends _)]
  rfl

theorem exists_scheme {s rest : Text} (h : afterScheme s = some rest) :
    ∃ scheme, scheme.all isSchemeChar = true ∧ s = scheme ++ ':' :: '/' :: '/' :: rest
      ∧ s.takeWhile isSchemeChar = scheme := by
  obtain ⟨scheme, after, rfl, hscheme, hends⟩ := Text.exists_run isSchemeChar s
  rw [afterScheme, Text.dropWhile_run hscheme hends, Text.after?_eq_some] at h
  subst h
  exact ⟨scheme, hscheme, rfl, Text.takeWhile_run hscheme hends⟩

/-! ### Forms of targets -/

/-- The forms of targets, with the path that each of them asks for: a path of its own; an absolute address with a path,
or without one, which asks for the root; an authority alone, which asks for no path; and a star. -/
inductive Asks : Text → Text → Prop
  | origin {path tail : Text} (hslash : path.head? = some '/') (hpath : path.all isPathChar = true) (htail : Tail tail) :
      Asks (path ++ tail) path
  | absolute {base path tail : Text} (hbase : Base base) (hslash : path.head? = some '/')
      (hpath : path.all isPathChar = true) (htail : Tail tail) : Asks (base ++ (path ++ tail)) path
  | root {base tail : Text} (hbase : Base base) (htail : Tail tail) : Asks (base ++ tail) ['/']
  | authority {authority : Text} (hauthority : isAuthority authority = true) (hsome : authority ≠ [])
      (hstar : authority ≠ ['*']) : Asks authority []
  | everything : Asks ['*'] ['*']

/-- Behind the scheme and the authority of an absolute address stands its path, or nothing for the root. -/
theorem pathOfOther?_base {base rest : Text} (hbase : Base base)
    (hends : ∀ c, rest.head? = some c → beforePath c = false) :
    pathOfOther? (base ++ rest) = (pathBefore? rest).map fun p => if p = [] then ['/'] else p := by
  cases hbase with
  | @mk scheme authority hscheme hlength hauthority hsome =>
    have hshape : (scheme ++ ':' :: '/' :: '/' :: authority) ++ rest
        = scheme ++ ':' :: '/' :: '/' :: (authority ++ rest) := by
      rw [List.append_assoc]
      rfl
    have hlong : ¬ (scheme ++ ':' :: '/' :: '/' :: (authority ++ rest)).length ≤ 3 := by
      have hpositive := List.length_pos_iff.2 hsome
      simp only [List.length_append, List.length_cons]
      omega
    have hshort : ¬ schemeLimit < scheme.length := Nat.not_lt.2 hlength
    have hfound : authority? (authority ++ rest) = some (authority, rest) :=
      authority?_eq_some_iff.2 ⟨hauthority, rfl, hends⟩
    rw [hshape, pathOfOther?, if_neg hlong, afterScheme_append hscheme]
    simp only [Text.takeWhile_run hscheme (colon_ends _), if_neg hshort, hfound]

/-- A target with a path that begins with neither a slash nor a star is an absolute address or an authority. -/
theorem asks_of_pathOfOther? {s : Text} (hs : s ≠ []) (hstar : s ≠ ['*']) (h : pathOfOther? s = some path) :
    Asks s path := by
  rw [pathOfOther?] at h
  split at h
  · rename_i rest hrest
    have hafter : afterScheme s = some rest := by
      split at hrest
      · cases hrest
      · exact hrest
    obtain ⟨scheme, hscheme, rfl, hrun⟩ := exists_scheme hafter
    rw [hrun, Option.ite_none_left_eq_some] at h
    obtain ⟨hlength, h⟩ := h
    split at h
    · cases h
    · rename_i authority behind hsome hfound
      obtain ⟨hauthority, rfl, hends⟩ := authority?_eq_some_iff.1 hfound
      obtain ⟨p, hp, rfl⟩ := Option.map_eq_some_iff.1 h
      obtain ⟨hpath, tail, htail, rfl⟩ := pathBefore?_eq_some_iff.1 hp
      have hbase : Base (scheme ++ ':' :: '/' :: '/' :: authority) := .mk hscheme (Nat.not_lt.1 hlength) hauthority hsome
      rw [← List.cons_append, ← List.cons_append, ← List.cons_append, ← List.append_assoc]
      by_cases hroot : p = []
      · rw [if_pos hroot, hroot]
        exact .root hbase htail
      · rw [if_neg hroot]
        exact .absolute hbase (head?_of_ends hroot hpath hends) hpath htail
    · cases h
  · split at h
    · rename_i authority hfound
      cases h
      obtain ⟨hauthority, hsame, -⟩ := authority?_eq_some_iff.1 hfound
      rw [List.append_nil] at hsame
      subst hsame
      exact .authority hauthority hs hstar
    · cases h

theorem slash_not_mem_of_isAuthority {s : Text} (h : isAuthority s = true) : '/' ∉ s := by
  intro hmem
  exact absurd (List.all_eq_true.1 (inside_of_isAuthority h) '/' hmem) (by decide)

theorem pathOfOther?_authority {s : Text} (h : isAuthority s = true) : pathOfOther? s = some [] := by
  have hscheme : afterScheme s = none := by
    refine Option.eq_none_iff_forall_ne_some.2 fun rest hrest => ?_
    obtain ⟨scheme, -, hs, -⟩ := exists_scheme hrest
    refine slash_not_mem_of_isAuthority h ?_
    rw [hs]
    simp
  have hfound : authority? s = some (s, []) :=
    authority?_eq_some_iff.2 ⟨h, (List.append_nil s).symm, fun c hc => by cases hc⟩
  rw [pathOfOther?, hscheme, ite_self, hfound]

/-! ### The path of each form -/

theorem path?_of_slash (h : path.head? = some '/') :
    path? path = if path.byteSize ≤ 65534 then pathBefore? path else none := by
  have hne : path ≠ [] := by
    rintro rfl
    cases h
  have hstar : path ≠ ['*'] := by
    rintro rfl
    exact absurd h (by decide)
  rw [path?, if_neg hstar, if_pos h]
  by_cases hsize : path.byteSize ≤ 65534
  · have hshort : ¬ (path = [] ∨ sizeLimit < path.byteSize) := not_or.2 ⟨hne, Nat.not_lt.2 hsize⟩
    rw [if_pos hsize, if_neg hshort]
  · have hlong : path = [] ∨ sizeLimit < path.byteSize := Or.inr (Nat.lt_of_not_le hsize)
    rw [if_neg hsize, if_pos hlong]

theorem path?_of_other {s : Text} (hs : s ≠ []) (hsize : s.byteSize ≤ 65534) (hstar : s ≠ ['*'])
    (hslash : s.head? ≠ some '/') : path? s = pathOfOther? s := by
  have hshort : ¬ (s = [] ∨ sizeLimit < s.byteSize) := not_or.2 ⟨hs, Nat.not_lt.2 hsize⟩
  rw [path?, if_neg hshort, if_neg hstar, if_neg hslash]

/-- An absolute address begins with no slash and is more than a star. -/
theorem path?_base {base rest : Text} (hbase : Base base) (hsize : (base ++ rest).byteSize ≤ 65534) :
    path? (base ++ rest) = pathOfOther? (base ++ rest) := by
  have hcolon : ':' ∈ base ++ rest := by
    cases hbase
    simp
  have hslash : (base ++ rest).head? ≠ some '/' := by
    cases hbase with
    | @mk scheme authority hscheme _ _ _ =>
      cases scheme with
      | nil => simp
      | cons c more =>
        intro hc
        cases hc
        rw [List.all_cons, Bool.and_eq_true] at hscheme
        exact absurd hscheme.1 (by decide)
  refine path?_of_other (List.ne_nil_of_mem hcolon) hsize ?_ hslash
  intro hstar
  rw [hstar] at hcolon
  exact absurd hcolon (by decide)

theorem Asks.path?_of_size {s : Text} (h : Asks s path) (hsize : s.byteSize ≤ 65534) : path? s = some path := by
  cases h with
  | @origin path tail hslash hpath htail =>
    have hhead : (path ++ tail).head? = some '/' := by
      rw [List.head?_append, hslash]
      rfl
    rw [path?_of_slash hhead, if_pos hsize]
    exact pathBefore?_append hpath htail
  | @absolute base path tail hbase hslash hpath htail =>
    have hne : path ≠ [] := by
      rintro rfl
      cases hslash
    have hends : ∀ c, (path ++ tail).head? = some c → beforePath c = false := by
      intro c hc
      rw [List.head?_append, hslash] at hc
      cases hc
      decide
    rw [path?_base hbase hsize, pathOfOther?_base hbase hends, pathBefore?_append hpath htail, Option.map_some, if_neg hne]
  | @root base tail hbase htail =>
    have hends : ∀ c, tail.head? = some c → beforePath c = false := by
      intro c hc
      rw [beforePath_eq, htail.head c hc, Bool.and_false]
    rw [path?_base hbase hsize, pathOfOther?_base hbase hends, pathBefore?_tail htail, Option.map_some, if_pos rfl]
  | @authority authority hauthority hsome hstar =>
    have hslash : s.head? ≠ some '/' := fun hc => slash_not_mem_of_isAuthority hauthority (List.mem_of_head? hc)
    rw [path?_of_other hsome hsize hstar hslash, pathOfOther?_authority hauthority]
  | everything => rfl

/-- **The path of a target is the one that its form asks for**; a target of no form, or one that is too long, has none. -/
theorem path?_eq_some_iff {s : Text} : path? s = some path ↔ s.byteSize ≤ 65534 ∧ Asks s path := by
  constructor
  · intro h
    rw [path?, Option.ite_none_left_eq_some, not_or] at h
    obtain ⟨⟨hs, hsize⟩, h⟩ := h
    refine ⟨Nat.not_lt.1 hsize, ?_⟩
    by_cases hstar : s = ['*']
    · rw [if_pos hstar] at h
      cases h
      rw [hstar]
      exact .everything
    rw [if_neg hstar] at h
    by_cases hslash : s.head? = some '/'
    · rw [if_pos hslash] at h
      obtain ⟨hpath, tail, htail, rfl⟩ := pathBefore?_eq_some_iff.1 h
      refine .origin ?_ hpath htail
      cases path with
      | nil => exact absurd (htail.head '/' hslash) (by decide)
      | cons c more => exact hslash
    · rw [if_neg hslash] at h
      exact asks_of_pathOfOther? hs hstar h
  · rintro ⟨hsize, hasks⟩
    exact hasks.path?_of_size hsize

/-! ### What follows the path -/

/-- What stands before the first question mark or number sign. -/
def bare (s : Text) : Text := s.takeWhile beforeTail

theorem bare_append {front : Text} (hfront : front.all beforeTail = true) (htail : Tail tail) :
    bare (front ++ tail) = front := Text.takeWhile_run hfront htail.head

theorem bare_eq_self {s : Text} (h : s.all beforeTail = true) : bare s = s := Text.takeWhile_all h

theorem inside_of_isSchemeChar {c : Char} (h : isSchemeChar c = true) : beforeTail c = true := by
  rw [Bool.and_eq_true, bne_iff_ne, bne_iff_ne]
  constructor
  · rintro rfl
    exact absurd h (by decide)
  · rintro rfl
    exact absurd h (by decide)

theorem unmarked_of_isAuthority {s : Text} (h : isAuthority s = true) : s.all beforeTail = true := by
  refine List.all_eq_true.2 fun c hc => ?_
  have hinside := List.all_eq_true.1 (inside_of_isAuthority h) c hc
  rw [beforePath_eq, Bool.and_eq_true] at hinside
  exact hinside.2

theorem Base.inside {base : Text} (h : Base base) : base.all beforeTail = true := by
  cases h with
  | @mk scheme authority hscheme _ hauthority _ =>
    have hfirst : scheme.all beforeTail = true :=
      List.all_eq_true.2 fun c hc => inside_of_isSchemeChar (List.all_eq_true.1 hscheme c hc)
    rw [List.all_append, List.all_cons, List.all_cons, List.all_cons, hfirst, unmarked_of_isAuthority hauthority]
    rfl

/-- Without what follows its path, a target is of the same form. -/
theorem Asks.bare {s : Text} (h : Asks s path) : Asks (bare s) path := by
  cases h with
  | @origin path tail hslash hpath htail =>
    rw [bare_append (all_beforeTail hpath) htail]
    have hself := Asks.origin hslash hpath .nothing
    rwa [List.append_nil] at hself
  | @absolute base path tail hbase hslash hpath htail =>
    have hfront : (base ++ path).all beforeTail = true := by
      rw [List.all_append, hbase.inside, all_beforeTail hpath, Bool.and_self]
    rw [← List.append_assoc, bare_append hfront htail]
    have hself := Asks.absolute hbase hslash hpath .nothing
    rwa [List.append_nil] at hself
  | @root base tail hbase htail =>
    rw [bare_append hbase.inside htail]
    have hself := Asks.root hbase .nothing
    rwa [List.append_nil] at hself
  | @authority authority hauthority hsome hstar =>
    rw [bare_eq_self (unmarked_of_isAuthority hauthority)]
    exact .authority hauthority hsome hstar
  | everything => exact .everything

/-- **What follows the path of a target has no part in it.** -/
theorem path?_bare {s : Text} (h : path? s = some path) : path? (bare s) = some path := by
  obtain ⟨hsize, hasks⟩ := path?_eq_some_iff.1 h
  refine path?_eq_some_iff.2 ⟨?_, hasks.bare⟩
  have hsplit : bare s ++ s.dropWhile beforeTail = s := List.takeWhile_append_dropWhile
  rw [← hsplit, Text.byteSize_append] at hsize
  exact Nat.le_trans (Nat.le_add_right _ _) hsize

end Target

end Multiples
