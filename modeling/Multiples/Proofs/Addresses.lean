import Multiples.Client
import Multiples.Proofs.Integers
import Multiples.Proofs.Reachability

/-!
# What is sent to an address

An address is read leniently and brought to one form, and the form is sent.  Whatever text the address was, the form
has the path and the query of a valid request, and a path that is in this form already is sent as it is.

* `Percent.mem_encode`, `Percent.encode_eq_self` — what is left where the characters of a kind are encoded;
* `Url.all_resolvePath`, `Url.all_queryOf` — the paths and the queries that come of reading have no characters but those
  that are not encoded, and so can be sent; the paths are literal ones, since braces are encoded;
* `Url.Sendable` — an address of the web with such a path and query; `Url.sendable_of_parse?` — every address that
  begins like one is read as one; `Url.path?_target` — **a request to it asks for its path**;
* `Url.parse?_plain` — a plain host, a port, and a path in its form are read as they are written, and
  `Url.canAsk_plain` — they can be asked, if they are not too long.
-/

namespace Multiples

/-! ### Encoded characters -/

namespace Percent

/-- What an encoded byte is written with. -/
def marks : List Char := "%0123456789ABCDEF".toList

theorem capitalDigit_mem_marks {n : Nat} (h : n < 16) : capitalDigit n ∈ marks := by
  have hall : ∀ n < 16, capitalDigit n ∈ marks := by decide
  exact hall n h

theorem mem_byte {b : UInt8} {c : Char} (h : c ∈ byte b) : c ∈ marks := by
  have hb := b.toNat_lt
  simp only [byte, List.mem_cons, List.not_mem_nil, or_false] at h
  rcases h with rfl | rfl | rfl
  · decide
  · apply capitalDigit_mem_marks
    omega
  · apply capitalDigit_mem_marks
    omega

/-- Where the characters of a kind are encoded, there are only others, and what encoded bytes are written with. -/
theorem mem_encode {kind : Char → Bool} {s : Text} {c : Char} (h : c ∈ encode kind s) : c ∈ marks ∨ kind c = false := by
  obtain ⟨d, -, hc⟩ := List.mem_flatMap.1 h
  split at hc
  · obtain ⟨b, -, hb⟩ := List.mem_flatMap.1 hc
    exact Or.inl (mem_byte hb)
  · rename_i hkind
    rw [List.mem_singleton] at hc
    subst hc
    exact Or.inr (Bool.eq_false_iff.2 hkind)

/-- Where there are none of the characters to encode, nothing is. -/
theorem encode_eq_self {kind : Char → Bool} {s : Text} (h : ∀ c ∈ s, kind c = false) : encode kind s = s := by
  induction s with
  | nil => rfl
  | cons c s ih =>
    have hc : ¬ kind c = true := Bool.eq_false_iff.1 (h c List.mem_cons_self)
    have hs := ih fun d hd => h d (List.mem_cons_of_mem c hd)
    rw [encode, List.flatMap_cons, if_neg hc, ← encode, hs]
    rfl

end Percent

namespace Url

open Target (isPathChar isQueryChar)

theorem isPathChar_of_not_encoded {c : Char} (h : encodedInPath c = false) : isPathChar c = true := by
  simp only [encodedInPath, encodedInFragment, Percent.isUnwritable, Bool.or_eq_false_iff, decide_eq_false_iff_not,
    List.mem_cons, List.not_mem_nil, or_false, not_or] at h
  rw [Target.isPathChar_iff]
  simp only [Target.unnameable, List.mem_cons, List.not_mem_nil, or_false, ← Char.toNat_inj, Char.reduceToNat] at h ⊢
  omega

/-- Braces are encoded in a path. -/
theorem not_brace_of_not_encoded {c : Char} (h : encodedInPath c = false) : (c != '\x7b' && c != '\x7d') = true := by
  simp only [encodedInPath, Bool.or_eq_false_iff, decide_eq_false_iff_not, List.mem_cons, not_or] at h
  obtain ⟨-, -, -, hopen, hclose, -⟩ := h
  simp [hopen, hclose]

theorem isQueryChar_of_not_encoded {scheme : Scheme} {c : Char} (h : encodedInQuery scheme c = false) :
    isQueryChar c = true := by
  simp only [encodedInQuery, Percent.isUnwritable, Bool.or_eq_false_iff, decide_eq_false_iff_not,
    List.mem_cons, List.not_mem_nil, or_false, not_or] at h
  simp only [isQueryChar, Target.between, List.mem_cons, List.not_mem_nil, or_false, Bool.or_eq_true, Bool.and_eq_true,
    decide_eq_true_eq, ← Char.toNat_inj, Char.reduceToNat] at h ⊢
  omega

theorem all_encode {kind good : Char → Bool} (hmarks : Percent.marks.all good = true)
    (hgood : ∀ c, kind c = false → good c = true) (s : Text) : (Percent.encode kind s).all good = true := by
  rw [List.all_eq_true]
  intro c hc
  exact (Percent.mem_encode hc).elim (List.all_eq_true.1 hmarks c) (hgood c)

/-! ### Paths and queries -/

section Clean

variable {good : Char → Bool}

/-- Whether some segments have good characters only. -/
def Clean (good : Char → Bool) (segments : List Text) : Prop := ∀ segment ∈ segments, segment.all good = true

theorem Clean.cons {segment : Text} {segments : List Text} (h : segment.all good = true) (hs : Clean good segments) :
    Clean good (segment :: segments) := by
  intro found hfound
  rcases List.mem_cons.1 hfound with rfl | hfound
  · exact h
  · exact hs found hfound

theorem Clean.back {segments : List Text} (h : Clean good segments) : Clean good (back segments) := by
  cases segments with
  | nil => exact h
  | cons last segments =>
    rw [Url.back]
    split
    · exact h
    · exact fun segment hsegment => h segment (List.mem_cons_of_mem _ hsegment)

variable (hmarks : Percent.marks.all good = true) (hgood : ∀ c, encodedInPath c = false → good c = true)
include hmarks hgood

/-- Walking along segments leaves encoded ones behind, and empty ones at its end. -/
theorem Clean.walk {done : List Text} (hdone : Clean good done) (segments : List Text) :
    Clean good (walk done segments) := by
  induction segments generalizing done with
  | nil => exact hdone
  | cons segment more ih =>
    rw [Url.walk]
    split
    · apply ih
      split
      · exact hdone.back.cons rfl
      · exact hdone.back
    split
    · apply ih
      split
      · exact hdone.cons rfl
      · exact hdone
    · exact ih (hdone.cons (all_encode hmarks hgood segment))

/-- A path that comes of reading has slashes, what encoded bytes are written with, and what is not encoded. -/
theorem all_resolvePath (hslash : good '/' = true) (scheme : Scheme) (s : Text) :
    (resolvePath scheme s).all good = true := by
  rw [resolvePath, List.all_cons, Bool.and_eq_true, List.all_eq_true]
  refine ⟨hslash, fun c hc => ?_⟩
  have hclean : Clean good (walk [] (Text.cells '/' (s.map fun c => if scheme.isSlash c then '/' else c))) :=
    Clean.walk hmarks hgood (fun _ h => absurd h List.not_mem_nil) _
  rcases Text.mem_glue hc with hsep | ⟨segment, hsegment, hmem⟩
  · rw [List.mem_singleton.1 hsep]
    exact hslash
  · exact List.all_eq_true.1 (hclean segment (List.mem_reverse.1 hsegment)) c hmem

end Clean

theorem all_queryOf {scheme : Scheme} {tail query : Text} (h : queryOf scheme tail = some query) :
    query.all isQueryChar = true := by
  rw [queryOf] at h
  split at h
  · cases h
    exact all_encode (by decide) (fun _ => isQueryChar_of_not_encoded) _
  · exact nomatch h

/-! ### What a request to an address asks for -/

/-- Whether a request can be sent to an address as it is: it is one of the web, with a path and a query of the
characters of requests, and no braces in the path. -/
structure Sendable (u : Url) : Prop where
  scheme : u.scheme = .http
  slash : u.path.head? = some '/'
  path : u.path.all isPathChar = true
  literal : PathPattern.isLiteral u.path = true
  query : ∀ t, u.query = some t → t.all isQueryChar = true

theorem Sendable.anonymous {u : Url} (h : u.Sendable) : u.anonymous.Sendable :=
  ⟨h.scheme, h.slash, h.path, h.literal, h.query⟩

/-- **A request to an address asks for its path**, if it is not too long. -/
theorem path?_target {u : Url} (h : u.Sendable) (hsize : u.target.byteSize ≤ 65534) :
    Target.path? u.target = some u.path := by
  refine Target.path?_eq_some_iff.2 ⟨hsize, .origin h.slash h.path ?_⟩
  cases hquery : u.query with
  | none => exact .nothing
  | some query => exact .query (h.query query hquery)

theorem byteSize_target_le (u : Url) : u.target.byteSize ≤ u.text.byteSize := by
  rw [text]
  simp only [Text.byteSize_append]
  omega

theorem path?_of_canAsk {u : Url} (h : u.Sendable) (hask : Client.canAsk u = true) : Target.path? u.target = some u.path := by
  rw [Client.canAsk, Bool.and_eq_true, Option.isSome_iff_exists] at hask
  obtain ⟨path, hpath⟩ := hask.2
  exact path?_target h (Nat.le_trans (byteSize_target_le u) (Target.path?_eq_some_iff.1 hpath).1)

/-! ### Reading an address -/

/-- The characters that do not count inside an address do not count at its ends either. -/
theorem filter_of_no_margin {s : Text} (h : ∀ c ∈ s, isMargin c = false) :
    s.filter (fun c => c != '\t' && c != '\n' && c != '\r') = s := by
  apply List.filter_eq_self.2
  intro c hc
  have hno := h c hc
  simp only [isMargin, decide_eq_false_iff_not, Bool.and_eq_true, bne_iff_ne, ne_eq, ← Char.toNat_inj,
    Char.reduceToNat] at hno ⊢
  omega

/-- The beginning of an address stays, if there are no margins in it. -/
theorem cleaned_append {front : Text} (hfront : ∀ c ∈ front, isMargin c = false) (hne : front ≠ []) (s : Text) :
    ∃ rest, cleaned (front ++ s) = front ++ rest := by
  have hbegin : (front ++ s).dropWhile isMargin = front ++ s := by
    cases front with
    | nil => exact absurd rfl hne
    | cons c front =>
      have hc : ¬ isMargin c = true := Bool.eq_false_iff.1 (hfront c List.mem_cons_self)
      rw [List.cons_append, List.dropWhile_cons_of_neg hc]
  -- the margins at the end are all in `s`
  have hend : ∃ kept, (s.reverse ++ front.reverse).dropWhile isMargin = kept ++ front.reverse := by
    rw [List.dropWhile_append]
    split
    · refine ⟨[], Text.dropWhile_eq_self fun c hc => hfront c (List.mem_reverse.1 hc)⟩
    · exact ⟨_, rfl⟩
  obtain ⟨kept, hkept⟩ := hend
  rw [cleaned, hbegin, List.reverse_append, hkept, List.reverse_append, List.reverse_reverse, List.filter_append,
    filter_of_no_margin hfront]
  exact ⟨_, rfl⟩

theorem cleaned_eq_self {s : Text} (h : ∀ c ∈ s, isMargin c = false) : cleaned s = s := by
  have hreverse : ∀ c ∈ s.reverse, isMargin c = false := fun c hc => h c (List.mem_reverse.1 hc)
  rw [cleaned, Text.dropWhile_eq_self h, Text.dropWhile_eq_self hreverse, List.reverse_reverse, filter_of_no_margin h]

/-- The scheme of the web before its colon. -/
def web : Text := "http".toList

theorem no_margin_web : ∀ c ∈ web ++ [':'], isMargin c = false := by
  intro c hc
  have hno : (web ++ [':']).any isMargin = false := by decide
  exact Bool.eq_false_iff.2 (List.any_eq_false.1 hno c hc)

theorem scheme?_web (rest : Text) : scheme? (web ++ ':' :: rest) = some (.http, rest) := by
  have hweb : web.all isSchemeChar = true := by decide
  have hcolon : ∀ c, (':' :: rest).head? = some c → isSchemeChar c = false := by
    intro c hc
    cases hc
    decide
  rw [scheme?, Text.dropWhile_run hweb hcolon, Text.takeWhile_run hweb hcolon]
  rfl

theorem withAuthority?_http (front tail : Text) : withAuthority? .http front tail
    = (authority? .http (front.dropWhile (fun c => !Scheme.isSlash .http c) ≠ [] ∨ tail ≠ [])
        (front.takeWhile fun c => !Scheme.isSlash .http c)).map fun a =>
      (a, resolvePath .http ((front.dropWhile fun c => !Scheme.isSlash .http c).drop 1)) := by
  have hknown : ∀ path : Text, ¬ (path = [] ∧ ¬ Scheme.isKnown .http = true) := fun _ h => h.2 rfl
  simp only [withAuthority?, if_neg (hknown _)]
  cases authority? .http _ _ <;> rfl

theorem parse?_of_cleaned {s rest : Text} (h : cleaned s = web ++ ':' :: rest) : parse? s
    = (withAuthority? .http ((splitQuery rest).1.dropWhile (Scheme.isSlash .http)) (splitQuery rest).2).map fun found =>
      { scheme := .http, authority := some found.1, path := found.2, query := queryOf .http (splitQuery rest).2
        fragment := fragmentOf (splitQuery rest).2 } := by
  have hhierarchy : ∀ front tail, hierarchy? .http front tail
      = (withAuthority? .http (front.dropWhile (Scheme.isSlash .http)) tail).map fun found => (some found.1, found.2) :=
    fun _ _ => rfl
  simp only [parse?, h, scheme?_web, Option.bind_eq_bind, Option.bind_some, hhierarchy]
  cases withAuthority? .http _ _ <;> rfl

/-- **What begins like an address of the web is read as one**, if it is read at all. -/
theorem sendable_of_parse? {s : Text} {u : Url} (h : parse? (web ++ ':' :: '/' :: '/' :: s) = some u) : u.Sendable := by
  obtain ⟨rest, hrest⟩ := cleaned_append no_margin_web (by decide) ('/' :: '/' :: s)
  rw [List.append_assoc, List.singleton_append, List.append_assoc, List.singleton_append] at hrest
  rw [parse?_of_cleaned hrest, withAuthority?_http] at h
  obtain ⟨found, hfound, rfl⟩ := Option.map_eq_some_iff.1 h
  obtain ⟨authority, -, rfl⟩ := Option.map_eq_some_iff.1 hfound
  exact
    { scheme := rfl
      slash := rfl
      path := all_resolvePath (by decide) (fun _ => isPathChar_of_not_encoded) (by decide) .http _
      literal := all_resolvePath (by decide) (fun _ => not_brace_of_not_encoded) (by decide) .http _
      query := fun _ hquery => all_queryOf hquery }

/-! ### Plain hosts and ports -/

/-- The characters of plain hosts, and of ports. -/
def isPlainChar (c : Char) : Bool := c.isAlphanum || c = '-' || c = '.'

theorem ne_of_isPlainChar {c d : Char} (hc : isPlainChar c = true) (hd : isPlainChar d = false) : c ≠ d := by
  rintro rfl
  rw [hc] at hd
  exact nomatch hd

theorem isPlainChar_of_isDigit {c : Char} (h : c.isDigit = true) : isPlainChar c = true := by
  simp [isPlainChar, Char.isAlphanum, h]

theorem blank_lt_of_isPlainChar {c : Char} (h : isPlainChar c = true) : 0x20 < c.toNat := by
  have hblank : ∀ n < 0x21, isPlainChar (Char.ofNat n) = false := by decide
  apply Nat.lt_of_not_le
  intro hle
  have hc := hblank c.toNat (Nat.lt_succ_of_le hle)
  rw [Char.ofNat_toNat, h] at hc
  cases hc

/-- Whether a host and a port can be asked as they are written: the host is a plain name, or octets, in the form that
reading brings hosts to. -/
structure Plain (host : Text) (port : Nat) : Prop where
  chars : host.all isPlainChar = true
  form : host? .http host = some host
  port : port < 65536

section Plain

variable {host path : Text} {port : Nat}

theorem Plain.ne_nil (h : Plain host port) : host ≠ [] := by
  rintro rfl
  exact absurd h.form (by decide)

/-- The port as it is kept: the one of the scheme is left out. -/
def keptPort (port : Nat) : Option Nat := if port = 80 then none else some port

/-- The address of a path at a plain host and a port. -/
def plain (host : Text) (port : Nat) (path : Text) : Url :=
  { scheme := .http, authority := some { host, port := keptPort port }, path }

theorem isAt_plain : (plain host port path).isAt host port = true := by
  simp only [isAt, plain, Url.host, Url.port, keptPort, Option.map_some, Option.getD_some, Option.bind_some, beq_self_eq_true,
    Bool.true_and, beq_iff_eq]
  split
  · rename_i hport
    rw [hport]
    rfl
  · rfl

theorem anonymous_plain : (plain host port path).anonymous = plain host port path := by
  have hkept : withoutUser { host, port := keptPort port } = { host, port := keptPort port } := by
    rw [withoutUser]
    split <;> rfl
  simp only [anonymous, plain, Option.map_some, hkept]

/-- The port after a host, as it is written in full. -/
def portText (port : Nat) : Text := ':' :: Decimal.ofNat port

theorem splitPort_plain (hhost : host.all isPlainChar = true) : splitPort false (host ++ portText port) = (host, portText port) := by
  induction host with
  | nil => rfl
  | cons c host ih =>
    rw [List.all_cons, Bool.and_eq_true] at hhost
    have hcolon : ¬ (c = ':' ∧ ¬ false = true) := fun h => ne_of_isPlainChar hhost.1 (by decide) h.1
    have hbracket : (c = '[' || (false && c != ']')) = false := by
      simpa using ne_of_isPlainChar hhost.1 (d := '[') (by decide)
    rw [List.cons_append, splitPort, if_neg hcolon]
    simp only [hbracket, ih hhost.2]

theorem port?_plain (hport : port < 65536) : port? .http (portText port) = some (keptPort port) := by
  have hread : Decimal.natBelow? 0x10000 (Decimal.ofNat port) = some port := by
    rw [Decimal.natBelow?, Decimal.nat?_ofNat, Option.bind_some, if_pos hport]
  have hsame : (some 80 = some port) ↔ port = 80 := by
    rw [Option.some.injEq]
    exact eq_comm
  rw [portText]
  cases hdigits : Decimal.ofNat port with
  | nil => exact absurd hdigits (Decimal.ofNat_ne_nil port)
  | cons d digits =>
    rw [hdigits] at hread
    show (Decimal.natBelow? 0x10000 (d :: digits)).map (fun n => if some 80 = some n then none else some n) = _
    rw [hread, Option.map_some, keptPort]
    simp only [hsame]

/-- A plain host and a port, which may be left out, have plain characters and a colon. -/
theorem plain_or_colon {written : Text} (hhost : host.all isPlainChar = true)
    (hport : written = [] ∨ written = portText port) {c : Char} (hc : c ∈ host ++ written) : isPlainChar c = true ∨ c = ':' := by
  rw [List.mem_append] at hc
  rcases hc with hc | hc
  · exact Or.inl (List.all_eq_true.1 hhost c hc)
  rcases hport with rfl | rfl
  · exact nomatch hc
  rw [portText, List.mem_cons] at hc
  rcases hc with rfl | hc
  · exact Or.inr rfl
  · exact Or.inl (isPlainChar_of_isDigit (Decimal.isDigit_of_mem_ofNat hc))

/-- So none of the characters that end an authority, or part it, is among them. -/
theorem all_of_plain {written : Text} (hhost : host.all isPlainChar = true)
    (hport : written = [] ∨ written = portText port) {kind : Char → Bool} (hplain : ∀ c, isPlainChar c = true → kind c = true)
    (hcolon : kind ':' = true) : (host ++ written).all kind = true := by
  rw [List.all_eq_true]
  intro c hc
  rcases plain_or_colon hhost hport hc with hc | rfl
  · exact hplain c hc
  · exact hcolon

theorem authority?_plain (h : Plain host port) (more : Bool) :
    authority? .http more (host ++ portText port) = some { host, port := keptPort port } := by
  have huser : splitUser (host ++ portText port) = (none, host ++ portText port) := by
    have hsign : (host ++ portText port).reverse.all (· != '@') = true := by
      rw [List.all_reverse]
      exact all_of_plain h.chars (Or.inr rfl) (fun c hc => bne_iff_ne.2 (ne_of_isPlainChar hc (by decide))) (by decide)
    rw [splitUser, Text.dropWhile_all hsign]
  rw [authority?, huser]
  show (port? .http (splitPort false (host ++ portText port)).2).bind _ = _
  rw [splitPort_plain h.chars, port?_plain h.port]
  show (if host = [] then _ else (host? .http host).bind _) = _
  rw [if_neg h.ne_nil, h.form]
  rfl

theorem not_slash_of_plain {c : Char} (h : isPlainChar c = true) : (!Scheme.isSlash .http c) = true := by
  have hsolidus := ne_of_isPlainChar h (d := '/') (by decide)
  have hbackslash := ne_of_isPlainChar h (d := '\\') (by decide)
  simp [Scheme.isSlash, hsolidus, hbackslash]

theorem no_margin_of_blank_lt {c : Char} (h : 0x20 < c.toNat) : isMargin c = false := by
  rw [isMargin, decide_eq_false_iff_not]
  omega

/-- The text of a plain address after the scheme and its colon. -/
def plainRest (host : Text) (port : Nat) (path : Text) : Text := '/' :: '/' :: (host ++ portText port ++ path)

theorem no_margin_of_plain (hhost : host.all isPlainChar = true) (hpath : path.all isPathChar = true) :
    ∀ c ∈ web ++ ':' :: plainRest host port path, isMargin c = false := by
  intro c hc
  rw [plainRest, List.mem_append, List.mem_cons, List.mem_cons, List.mem_cons, List.mem_append] at hc
  rcases hc with hweb | rfl | rfl | rfl | hauthority | hmem
  · exact no_margin_web c (List.mem_append_left _ hweb)
  · decide
  · decide
  · decide
  · rcases plain_or_colon hhost (Or.inr rfl) hauthority with hplain | rfl
    · exact no_margin_of_blank_lt (blank_lt_of_isPlainChar hplain)
    · decide
  · exact no_margin_of_blank_lt (Target.isPathChar_iff.1 (List.all_eq_true.1 hpath c hmem)).1

theorem splitQuery_plain (hhost : host.all isPlainChar = true) (hpath : path.all isPathChar = true) :
    splitQuery (plainRest host port path) = (plainRest host port path, []) := by
  have hall : (plainRest host port path).all (fun c => c != '?' && c != '#') = true := by
    have hauthority : (host ++ portText port).all (fun c => c != '?' && c != '#') = true := by
      apply all_of_plain hhost (Or.inr rfl) _ (by decide)
      intro c hc
      simp [ne_of_isPlainChar hc (d := '?') (by decide), ne_of_isPlainChar hc (d := '#') (by decide)]
    have hrest : path.all (fun c => c != '?' && c != '#') = true := Target.all_beforeTail hpath
    rw [plainRest, List.all_cons, List.all_cons, List.all_append, hauthority, hrest]
    rfl
  rw [splitQuery, Text.takeWhile_all hall, Text.dropWhile_all hall]

/-- **A plain address is read as it is written**, but for its path, which is resolved. -/
theorem parse?_plain (h : Plain host port) (hslash : path.head? = some '/') (hpath : path.all isPathChar = true) :
    parse? (web ++ ':' :: plainRest host port path) = some (plain host port (resolvePath .http (path.drop 1))) := by
  have hcleaned := cleaned_eq_self (@no_margin_of_plain host path port h.chars hpath)
  -- the slashes before the authority
  have hauthority : (plainRest host port path).dropWhile (Scheme.isSlash .http) = host ++ portText port ++ path := by
    apply Text.dropWhile_run (a := ['/', '/']) (by decide)
    intro c hc
    have hhost := h.ne_nil
    have hchars := h.chars
    cases host with
    | nil => exact absurd rfl hhost
    | cons d host =>
      cases hc
      rw [List.all_cons, Bool.and_eq_true] at hchars
      simpa using not_slash_of_plain hchars.1
  -- the slash before the path
  have hinside : (host ++ portText port).all (fun c => !Scheme.isSlash .http c) = true :=
    all_of_plain h.chars (Or.inr rfl) (fun _ => not_slash_of_plain) (by decide)
  have hends : ∀ c, path.head? = some c → (!Scheme.isSlash .http c) = false := by
    intro c hc
    rw [hslash] at hc
    cases hc
    decide
  rw [parse?_of_cleaned hcleaned, splitQuery_plain h.chars hpath, hauthority, withAuthority?_http,
    Text.takeWhile_run hinside hends, Text.dropWhile_run hinside hends, authority?_plain h]
  rfl

/-! ### Asking at plain addresses -/

theorem add_of_plain {c : Char} (h : isPlainChar c = true) (seen : Target.Seen) : seen.add c = some seen := by
  have hother : Target.isAuthorityChar c = true := by
    rw [isPlainChar, Bool.or_eq_true, Bool.or_eq_true, decide_eq_true_eq, decide_eq_true_eq] at h
    rcases h with (halnum | rfl) | rfl
    · rw [Target.isAuthorityChar, halnum, Bool.true_or]
    · decide
    · decide
  have hne : ∀ d, isPlainChar d = false → c ≠ d := fun d hd => ne_of_isPlainChar h hd
  rw [Target.Seen.add, if_neg (hne _ (by decide)), if_neg (hne _ (by decide)), if_neg (hne _ (by decide)),
    if_neg (hne _ (by decide)), if_neg (hne _ (by decide)), if_pos hother]

theorem foldlM_add_plain {s : Text} (h : s.all isPlainChar = true) (seen : Target.Seen) :
    s.foldlM Target.Seen.add seen = some seen := by
  induction s with
  | nil => rfl
  | cons c s ih =>
    rw [List.all_cons, Bool.and_eq_true] at h
    rw [List.foldlM_cons, add_of_plain h.1]
    exact ih h.2

theorem all_isPlainChar_ofNat (n : Nat) : (Decimal.ofNat n).all isPlainChar = true :=
  List.all_eq_true.2 fun _ hc => isPlainChar_of_isDigit (Decimal.isDigit_of_mem_ofNat hc)

theorem isAuthority_plain {written : Text} (hhost : host.all isPlainChar = true)
    (hport : written = [] ∨ written = portText port) : Target.isAuthority (host ++ written) = true := by
  have hseen : ∃ colons, colons ≤ 1 ∧ (host ++ written).foldlM Target.Seen.add {} = some { colons } := by
    rw [List.foldlM_append, foldlM_add_plain hhost]
    rcases hport with rfl | rfl
    · exact ⟨0, by omega, rfl⟩
    · exact ⟨1, by omega, foldlM_add_plain (all_isPlainChar_ofNat port) _⟩
  have hlast : ((host ++ written).getLast? != some '@') = true := by
    rw [bne_iff_ne]
    intro hlast
    rcases plain_or_colon hhost hport (List.mem_of_getLast? hlast) with hplain | hcolon
    · exact absurd hplain (by decide)
    · exact absurd hcolon (by decide)
  obtain ⟨colons, hcolons, hfold⟩ := hseen
  rw [Target.isAuthority, hfold]
  simp only [hlast, hcolons]
  rfl

/-- The port of an address as it is written again. -/
def keptText (port : Nat) : Text := if port = 80 then [] else portText port

theorem text_plain : (plain host port path).text = web ++ ':' :: '/' :: '/' :: (host ++ keptText port ++ path) := by
  have hauthority : authorityText { host, port := keptPort port } = '/' :: '/' :: (host ++ keptText port) := by
    by_cases hport : port = 80
    · simp [authorityText, userText, keptPort, keptText, hport]
    · simp [authorityText, userText, keptPort, keptText, portText, hport]
  show web ++ ':' :: authorityText { host, port := keptPort port } ++ (path ++ []) ++ [] = _
  rw [hauthority]
  simp

theorem keptText_eq (port : Nat) : keptText port = [] ∨ keptText port = portText port := by
  rw [keptText]
  split
  · exact Or.inl rfl
  · exact Or.inr rfl

/-- A plain address as the target of a request asks for its path. -/
theorem asks_plain (h : Plain host port) (hslash : path.head? = some '/') (hpath : path.all isPathChar = true) :
    Target.Asks (plain host port path).text path := by
  have hauthority : Target.isAuthority (host ++ keptText port) = true := isAuthority_plain h.chars (keptText_eq port)
  have hsome : host ++ keptText port ≠ [] := List.append_ne_nil_of_left_ne_nil h.ne_nil _
  have hbase : Target.Base (web ++ ':' :: '/' :: '/' :: (host ++ keptText port)) :=
    .mk (by decide) (by decide) hauthority hsome
  have hasks := Target.Asks.absolute hbase hslash hpath .nothing
  rw [List.append_nil, List.append_assoc] at hasks
  rw [text_plain]
  exact hasks

/-- **A plain address can be asked**, if it is not too long. -/
theorem canAsk_plain (h : Plain host port) (hslash : path.head? = some '/') (hpath : path.all isPathChar = true)
    (hsize : (plain host port path).text.byteSize ≤ 65534) : Client.canAsk (plain host port path) = true := by
  have hpath := Target.path?_eq_some_iff.2 ⟨hsize, asks_plain h hslash hpath⟩
  rw [Client.canAsk, hpath]
  rfl

end Plain

end Url

end Multiples
