import Multiples.Text.Utf8
import Multiples.Proofs.Cutoff

/-!
# Fields by their places

A field is found by two searches and two cuts.  In memory a document is bytes, the searches give places in these, and a
cut at a wrong place, behind the end or inside a character, would be the end of the program.  No such place comes up:
**the first byte of a character never stands inside another one**, so a search among bytes finds what a search among
characters finds.

* `Utf8.place?`, `Utf8.slice?` — searching and cutting bytes, where a cut may be refused;
* `Utf8.place?_encode`, `Utf8.slice?_encode` — what they do with the bytes of a text;
* `Envelope.fieldBytes?` — a field found among bytes; `Envelope.fieldBytes?_eq` says that no cut is refused and that
  what comes out are the bytes of the field;
* `Envelope.Holds` — the grammar of a field, which tells the places of its two tags;
* `Envelope.field?_holds` — what is found is what the grammar says, **for every document and every tag**.
-/

namespace Multiples

namespace Utf8

/-! ### Searching and cutting bytes -/

/-- The place in some bytes where others first occur. -/
def place? (mark : List UInt8) : List UInt8 → Option Nat
  | [] => if mark = [] then some 0 else none
  | b :: bytes => if mark <+: b :: bytes then some 0 else (place? mark bytes).map (· + 1)

/-- Whether a place in the bytes of a text is one between two characters, or one of its ends. -/
def isBoundary (bytes : List UInt8) (place : Nat) : Bool :=
  match bytes.drop place with
  | [] => place == bytes.length
  | b :: _ => place == 0 || !continues b

/-- The bytes from one place to another one; refused if a place is out of order, behind the end or in a character. -/
def slice? (bytes : List UInt8) (start stop : Nat) : Option (List UInt8) :=
  if start ≤ stop ∧ isBoundary bytes start = true ∧ isBoundary bytes stop = true then
    some ((bytes.take stop).drop start)
  else none

/-! ### The bytes of characters -/

theorem continues_ofNat {n : Nat} (h : n < 256) : continues (UInt8.ofNat n) = decide (128 ≤ n ∧ n ≤ 191) := by
  have hn : (UInt8.ofNat n).toNat = n := by simp [Nat.mod_eq_of_lt h]
  simp [continues, UInt8.le_iff_toNat_le, hn]

theorem continues_low_bits (n : Nat) : continues (UInt8.ofNat (n % 64 + 128)) = true := by
  rw [continues_ofNat (by omega)]
  exact decide_eq_true (by omega)

/-- A character is a byte that opens it and bytes that continue it. -/
theorem exists_lead (c : Char) : ∃ lead more, String.utf8EncodeChar c = lead :: more
    ∧ continues lead = false ∧ ∀ b ∈ more, continues b = true := by
  have hopens : ∀ n, (n ≤ 127 ∨ 192 ≤ n) → n < 256 → continues (UInt8.ofNat n) = false := by
    intro n houtside hbyte
    rw [continues_ofNat hbyte]
    exact decide_eq_false (by omega)
  rw [String.utf8EncodeChar]
  -- one to four bytes
  split
  · exact ⟨_, _, rfl, hopens _ (by omega) (by omega), by simp⟩
  split
  · exact ⟨_, _, rfl, hopens _ (by omega) (by omega), by simp only [List.forall_mem_cons, continues_low_bits]; simp⟩
  split
  · exact ⟨_, _, rfl, hopens _ (by omega) (by omega), by simp only [List.forall_mem_cons, continues_low_bits]; simp⟩
  · exact ⟨_, _, rfl, hopens _ (by omega) (by omega), by simp only [List.forall_mem_cons, continues_low_bits]; simp⟩

theorem exists_lead_encode {s : Text} (hs : s ≠ []) : ∃ lead more, encode s = lead :: more ∧ continues lead = false := by
  cases s with
  | nil => exact absurd rfl hs
  | cons c s =>
    obtain ⟨lead, more, hc, hlead, -⟩ := exists_lead c
    exact ⟨lead, more ++ encode s, by rw [encode_cons, hc, List.cons_append], hlead⟩

/-- Texts begin with each other as their bytes do. -/
theorem encode_prefix_iff {mark s : Text} : encode mark <+: encode s ↔ mark <+: s := by
  constructor
  · intro h
    obtain ⟨t, ht⟩ := h
    induction mark generalizing s with
    | nil => exact List.nil_prefix
    | cons m mark ih =>
      cases s with
      | nil =>
        obtain ⟨lead, more, hlead, -⟩ := exists_lead m
        rw [encode_cons, hlead] at ht
        exact nomatch ht
      | cons c s =>
        rw [encode_cons, encode_cons, List.append_assoc] at ht
        have hhead : some m = some c := by
          rw [← head?_append m (encode mark ++ t), ht, head?_append]
        obtain rfl := Option.some.inj hhead
        exact List.cons_prefix_cons.2 ⟨rfl, ih (List.append_cancel_left ht)⟩
  · rintro ⟨t, rfl⟩
    rw [encode_append]
    exact List.prefix_append _ _

/-! ### What a search among bytes finds -/

/-- A search for something that begins with an opening byte passes over continuing ones. -/
theorem place?_continues {lead : UInt8} (mark : List UInt8) (hlead : continues lead = false) {inside : List UInt8}
    (hinside : ∀ b ∈ inside, continues b = true) (bytes : List UInt8) :
    place? (lead :: mark) (inside ++ bytes) = (place? (lead :: mark) bytes).map (· + inside.length) := by
  induction inside with
  | nil => simp
  | cons b inside ih =>
    have hne : lead ≠ b := by
      rintro rfl
      rw [hinside lead List.mem_cons_self] at hlead
      exact Bool.noConfusion hlead
    have hhere : ¬ lead :: mark <+: b :: (inside ++ bytes) := fun h => hne (List.cons_prefix_cons.1 h).1
    rw [List.cons_append, place?, if_neg hhere, ih fun d hd => hinside d (List.mem_cons_of_mem b hd), Option.map_map]
    rfl

/-- **A search among the bytes of a text finds what a search among its characters finds.** -/
theorem place?_encode (mark : Text) (hmark : mark ≠ []) (s : Text) :
    place? (encode mark) (encode s) = (Text.cut? mark s).map fun found => (encode found.1).length := by
  obtain ⟨first, others, hbytes, hfirst⟩ := exists_lead_encode hmark
  induction s with
  | nil =>
    have hnone : Text.cut? mark [] = none := by
      refine Text.cut?_eq_none_iff.2 fun before after h => ?_
      simp [hmark] at h
    rw [hnone, hbytes]
    rfl
  | cons c s ih =>
    obtain ⟨lead, more, hc, -, hmore⟩ := exists_lead c
    have hwhole : encode (c :: s) = lead :: (more ++ encode s) := by rw [encode_cons, hc, List.cons_append]
    rw [Text.cut?]
    cases hafter : Text.after? mark (c :: s) with
    | some rest =>
      have hbegins : encode mark <+: lead :: (more ++ encode s) := by
        rw [← hwhole, encode_prefix_iff, Text.after?_eq_some.1 hafter]
        exact List.prefix_append mark rest
      rw [hwhole, place?, if_pos hbegins]
      rfl
    | none =>
      have hbegins : ¬ encode mark <+: lead :: (more ++ encode s) := by
        rw [← hwhole, encode_prefix_iff]
        rintro ⟨rest, hrest⟩
        rw [Text.after?_eq_some.2 hrest.symm] at hafter
        cases hafter
      -- inside the character nothing is found, and after it what is found in the rest
      have hskip := place?_continues others hfirst hmore (encode s)
      rw [← hbytes] at hskip
      rw [hwhole, place?, if_neg hbegins, hskip, ih]
      cases Text.cut? mark s with
      | none => rfl
      | some found =>
        have hlength : (encode (c :: found.1)).length = (encode found.1).length + more.length + 1 := by
          rw [encode_cons, hc, List.length_append, List.length_cons]
          omega
        exact congrArg some hlength.symm

/-! ### What a cut gives -/

theorem isBoundary_encode (s t : Text) : isBoundary (encode (s ++ t)) (encode s).length = true := by
  rw [isBoundary, encode_append, List.drop_left]
  cases t with
  | nil => simp [encode]
  | cons c t =>
    obtain ⟨lead, more, hc, hlead, -⟩ := exists_lead c
    rw [encode_cons, hc, List.cons_append]
    simp [hlead]

/-- **A cut between characters gives the bytes of the text that stands there.** -/
theorem slice?_encode (front middle back : Text) {s : Text} {start stop : Nat} (hs : s = front ++ middle ++ back)
    (hstart : start = (encode front).length) (hstop : stop = start + (encode middle).length) :
    slice? (encode s) start stop = some (encode middle) := by
  subst hs hstart hstop
  have hfirst : isBoundary (encode (front ++ middle ++ back)) (encode front).length = true := by
    rw [List.append_assoc]
    exact isBoundary_encode front (middle ++ back)
  have hlast : isBoundary (encode (front ++ middle ++ back)) ((encode front).length + (encode middle).length) = true := by
    rw [← List.length_append, ← encode_append]
    exact isBoundary_encode (front ++ middle) back
  rw [slice?, if_pos ⟨Nat.le_add_right _ _, hfirst, hlast⟩, encode_append, encode_append, ← List.length_append,
    List.take_left, List.drop_left]

section Found

variable {opening closing s front rest content after : Text}

/-- Behind a mark that was found, the rest of the text is cut off. -/
theorem slice?_behind (hopen : Text.cut? opening s = some (front, rest)) :
    slice? (encode s) ((encode front).length + (encode opening).length) (encode s).length = some (encode rest) := by
  have hs : s = front ++ opening ++ rest := Text.cut?_eq_some hopen
  refine slice?_encode (front ++ opening) rest [] (by rw [hs, List.append_nil]) ?_ ?_
  · rw [encode_append, List.length_append]
  · rw [hs, encode_append, encode_append, List.length_append, List.length_append]

/-- Between two marks, of which the second was searched for behind the first, their content is cut out. -/
theorem slice?_between (hopen : Text.cut? opening s = some (front, rest))
    (hclose : Text.cut? closing rest = some (content, after)) :
    slice? (encode s) ((encode front).length + (encode opening).length)
      ((encode front).length + (encode opening).length + (encode content).length) = some (encode content) := by
  refine slice?_encode (front ++ opening) content (closing ++ after) ?_ ?_ rfl
  · rw [Text.cut?_eq_some hopen, Text.cut?_eq_some hclose]
    simp only [List.append_assoc]
  · rw [encode_append, List.length_append]

end Found

end Utf8

namespace Envelope

open Markup (openTag closeTag)

/-! ### Fields among bytes -/

/-- A field found among the bytes of a document: the place behind the first opening tag, and how far it is from there to
the first closing tag.  Nothing at all if a cut is refused. -/
def fieldBytes? (doc tag : Text) : Option (Option (List UInt8)) :=
  let bytes := Utf8.encode doc
  let opening := Utf8.encode (openTag tag)
  let closing := Utf8.encode (closeTag tag)
  match Utf8.place? opening bytes with
  | none => some none
  | some place => do
    let start := place + opening.length
    let rest ← Utf8.slice? bytes start bytes.length
    match Utf8.place? closing rest with
    | none => some none
    | some length => if length = 0 then some none else (Utf8.slice? bytes start (start + length)).map some

variable {doc tag : Text}

/-- **No cut is refused**, and what is found are the bytes of the field. -/
theorem fieldBytes?_eq (doc tag : Text) : fieldBytes? doc tag = some ((field? doc tag).map Utf8.encode) := by
  have hopening := Utf8.place?_encode (openTag tag) (List.cons_ne_nil _ _) doc
  cases hopen : Text.cut? (openTag tag) doc with
  | none =>
    rw [hopen] at hopening
    rw [fieldBytes?, hopening, field?, hopen]
    rfl
  | some found =>
    obtain ⟨front, rest⟩ := found
    rw [hopen] at hopening
    have hclosing := Utf8.place?_encode (closeTag tag) (List.cons_ne_nil _ _) rest
    cases hclose : Text.cut? (closeTag tag) rest with
    | none =>
      rw [hclose] at hclosing
      have hfield : field? doc tag = none := by simp only [field?, hopen, hclose]
      rw [fieldBytes?, hopening, hfield]
      show (Utf8.slice? _ _ _).bind _ = _
      rw [Utf8.slice?_behind hopen, Option.bind_some, hclosing]
      rfl
    | some content =>
      obtain ⟨raw, after⟩ := content
      rw [hclose] at hclosing
      rw [fieldBytes?, hopening, field?_of_cut hopen hclose]
      show (Utf8.slice? _ _ _).bind _ = _
      rw [Utf8.slice?_behind hopen, Option.bind_some, hclosing]
      show (if (Utf8.encode raw).length = 0 then some none else (Utf8.slice? _ _ _).map some) = _
      rw [Utf8.slice?_between hopen hclose]
      by_cases hempty : raw = []
      · rw [if_pos hempty, hempty]
        rfl
      · obtain ⟨lead, more, hbytes, -⟩ := Utf8.exists_lead_encode hempty
        have hlength : (Utf8.encode raw).length ≠ 0 := by
          rw [hbytes]
          exact Nat.succ_ne_zero _
        rw [if_neg hempty, if_neg hlength]
        rfl

/-! ### The grammar of a field -/

/-- A document holds some content in a field: it stands between an opening tag, before which no opening tag begins, and a
closing tag, before which no closing tag begins behind the opening one; and it is not empty. -/
def Holds (doc tag content : Text) : Prop :=
  ∃ before after, doc = before ++ (openTag tag ++ (content ++ (closeTag tag ++ after))) ∧ content ≠ []
    ∧ Text.ClearBefore before.length (openTag tag) doc
    ∧ Text.ClearBefore content.length (closeTag tag) (content ++ (closeTag tag ++ after))

variable {doc tag content : Text}

/-- A field that is found is one that the two searches find. -/
theorem field?_eq_some_iff : field? doc tag = some content ↔ content ≠ [] ∧ ∃ before rest after,
    Text.cut? (openTag tag) doc = some (before, rest) ∧ Text.cut? (closeTag tag) rest = some (content, after) := by
  constructor
  · intro h
    have hclosed : isClosed doc tag = true := by
      rw [← Bool.not_eq_false]
      intro hopen
      rw [field?_of_open hopen] at h
      exact nomatch h
    obtain ⟨before, rest, raw, after, hopen, hclose⟩ := isClosed_iff.1 hclosed
    rw [field?_of_cut hopen hclose] at h
    obtain ⟨hraw, hsame⟩ := Option.ite_none_left_eq_some.1 h
    obtain rfl := Option.some.inj hsame
    exact ⟨hraw, before, rest, after, hopen, hclose⟩
  · rintro ⟨hcontent, before, rest, after, hopen, hclose⟩
    rw [field?_of_cut hopen hclose, if_neg hcontent]

theorem field?_eq_some_iff_holds : field? doc tag = some content ↔ Holds doc tag content := by
  rw [field?_eq_some_iff]
  constructor
  · rintro ⟨hcontent, before, rest, after, hopen, hclose⟩
    obtain ⟨hdoc, hfirst⟩ := Text.cut?_eq_some_iff.1 hopen
    obtain ⟨rfl, hnext⟩ := Text.cut?_eq_some_iff.1 hclose
    exact ⟨before, after, hdoc, hcontent, hfirst, hnext⟩
  · rintro ⟨before, after, hdoc, hcontent, hfirst, hnext⟩
    exact ⟨hcontent, before, _, after, Text.cut?_eq_some_iff.2 ⟨hdoc, hfirst⟩, Text.cut?_eq_some_iff.2 ⟨rfl, hnext⟩⟩

theorem field?_append_of_some (h : field? doc tag = some content) (more : Text) :
    field? (doc ++ more) tag = some content := by
  obtain ⟨-, before, rest, after, hopen, hclose⟩ := field?_eq_some_iff.1 h
  rw [field?_append (isClosed_iff.2 ⟨before, rest, content, after, hopen, hclose⟩), h]

/-! ### Main statement -/

/-- **A field is found exactly where its grammar puts it**, whatever the tag is, and is absent otherwise; the program on
bytes finds the same, and none of its cuts is refused; and what follows a document takes nothing away from its field. -/
theorem field?_holds (doc tag : Text) :
    (∀ content, field? doc tag = some content ↔ Holds doc tag content)
    ∧ (field? doc tag = none ↔ ∀ content, ¬ Holds doc tag content)
    ∧ fieldBytes? doc tag = some ((field? doc tag).map Utf8.encode)
    ∧ ∀ content more, field? doc tag = some content → field? (doc ++ more) tag = some content := by
  refine ⟨fun content => field?_eq_some_iff_holds, ?_, fieldBytes?_eq doc tag, fun content more h => ?_⟩
  · rw [Option.eq_none_iff_forall_ne_some]
    exact forall_congr' fun content => not_congr field?_eq_some_iff_holds
  · exact field?_append_of_some h more

/-- A tag made of markup in a document where it nearly begins earlier, with content of several bytes. -/
def nearMiss : Text := "</<>><<<>>é<</<>>".toList

/-- The first tag counts, and a second one that follows does not. -/
theorem field?_nearMiss :
    field? nearMiss "<>".toList = some "é<".toList
      ∧ field? (nearMiss ++ "<<>>2</<>>".toList) "<>".toList = some "é<".toList := by
  have hfield : field? nearMiss "<>".toList = some "é<".toList := by decide
  exact ⟨hfield, (field?_holds nearMiss "<>".toList).2.2.2 _ _ hfield⟩

end Envelope

end Multiples
