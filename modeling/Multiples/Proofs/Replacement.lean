import Multiples.Proofs.Entities

/-!
# Entities replaced one after the other

Reading goes over a text once.  The same can be had by plain replacement, one entity at a time through the whole text,
as long as the ampersand comes last: what the other four stand for is no part of an entity, so replacing them neither
makes nor breaks one.

* `Text.replaceAll` — a text with every occurrence of a mark replaced;
* `Markup.readWith` — one pass that knows some of the entities; `Markup.replaceAll_eq` says that replacing one entity
  is the pass that knows this one, and `Markup.readWith_readWith` that **one more replacement is one more entity
  known**;
* `Markup.Scan` — reading as a loop from ampersand to ampersand; `Markup.Scan.ends` says that it comes to an end, with
  what reading gives;
* `Markup.unescape_eq_replaced` — the loop, the pass and the replacements agree on every text, and none makes it longer.
-/

namespace Multiples

namespace Text

/-! ### Plain replacement -/

/-- A text with another text for every occurrence of a mark.  Occurrences are found from the left, each search going on
after the last find; the empty mark is left alone. -/
def replaceAll (mark new s : Text) : Text :=
  if _hmark : mark = [] then s
  else
    match _hcut : cut? mark s with
    | none => s
    | some found => found.1 ++ (new ++ replaceAll mark new found.2)
termination_by s.length
decreasing_by
  have hlength := congrArg List.length (cut?_eq_some _hcut)
  have hpos := List.length_pos_iff.2 _hmark
  simp only [List.length_append] at hlength
  omega

section Replacing

variable {mark new s : Text}

theorem replaceAll_of_none (h : cut? mark s = none) : replaceAll mark new s = s := by
  rw [replaceAll]
  by_cases hmark : mark = []
  · rw [dif_pos hmark]
  · rw [dif_neg hmark]
    split
    · rfl
    · rename_i found hfound
      rw [h] at hfound
      exact nomatch hfound

theorem replaceAll_of_some (hmark : mark ≠ []) {found : Text × Text} (h : cut? mark s = some found) :
    replaceAll mark new s = found.1 ++ (new ++ replaceAll mark new found.2) := by
  rw [replaceAll, dif_neg hmark]
  split
  · rename_i hnone
    rw [h] at hnone
    exact nomatch hnone
  · rename_i other hother
    rw [h] at hother
    rw [Option.some.inj hother]

/-- The mark in front is replaced. -/
theorem replaceAll_mark (hmark : mark ≠ []) (s : Text) :
    replaceAll mark new (mark ++ s) = new ++ replaceAll mark new s :=
  replaceAll_of_some hmark (cut?_self_append mark s)

/-- A character that the mark does not begin at stays. -/
theorem replaceAll_cons {c : Char} (hmark : mark ≠ []) (h : after? mark (c :: s) = none) :
    replaceAll mark new (c :: s) = c :: replaceAll mark new s := by
  have hcut : cut? mark (c :: s) = (cut? mark s).map fun found => (c :: found.1, found.2) := by rw [cut?, h]
  cases hfound : cut? mark s with
  | none =>
    rw [hfound] at hcut
    rw [replaceAll_of_none hcut, replaceAll_of_none hfound]
  | some found =>
    rw [hfound] at hcut
    rw [replaceAll_of_some hmark hcut, replaceAll_of_some hmark hfound]
    rfl

end Replacing

end Text

namespace Markup

/-! ### One pass that knows some of the entities -/

/-- A text read in one pass from the left, where only some of the entities are known. -/
def readWith (known : List Entity) : Text → Text
  | [] => []
  | c :: s =>
    match _hfound : entity? known (c :: s) with
    | some found => found.1 :: readWith known found.2
    | none => c :: readWith known s
termination_by s => s.length
decreasing_by
  · exact length_of_entity? _hfound
  · exact Nat.lt_succ_self _

section Known

variable {known : List Entity}

theorem readWith_nil (known : List Entity) : readWith known [] = [] := by rw [readWith]

theorem readWith_entity (hknown : known ⊆ entities) {e : Entity} (he : e ∈ known) (s : Text) :
    readWith known (e.text ++ s) = e.char :: readWith known s := by
  have hfound := entity?_text hknown he s
  rw [Entity.text_append] at hfound ⊢
  rw [readWith]
  split
  · rename_i found h
    rw [hfound] at h
    cases h
    rfl
  · rename_i h
    rw [hfound] at h
    exact nomatch h

theorem readWith_char {c : Char} {s : Text} (h : entity? known (c :: s) = none) :
    readWith known (c :: s) = c :: readWith known s := by
  rw [readWith]
  split
  · rename_i found hfound
    rw [h] at hfound
    exact nomatch hfound
  · rfl

theorem readWith_unknown (s : Text) : readWith [] s = s := by
  induction s with
  | nil => exact readWith_nil []
  | cons c s ih => rw [readWith_char rfl, ih]

/-- The order in which entities are known does not matter. -/
theorem readWith_congr {other : List Entity} (hknown : known ⊆ entities) (h : ∀ e, e ∈ known ↔ e ∈ other) (s : Text) :
    readWith known s = readWith other s := by
  have hother : other ⊆ entities := fun e he => hknown ((h e).2 he)
  induction s using pieces_induction known with
  | nil => rw [readWith_nil, readWith_nil]
  | entity e he s ih => rw [readWith_entity hknown he, readWith_entity hother ((h e).1 he), ih]
  | char c s hnone ih =>
    have hnone' : entity? other (c :: s) = none :=
      entity?_eq_none_iff.2 fun e he => entity?_eq_none_iff.1 hnone e ((h e).2 he)
    rw [readWith_char hnone, readWith_char hnone', ih]

/-- With all entities known, the pass is the reading. -/
theorem readWith_entities (s : Text) : readWith entities s = unescape s := by
  induction s using pieces_induction entities with
  | nil => exact readWith_nil entities
  | entity e he s ih => rw [readWith_entity (List.Subset.refl _) he, unescape_entity he, ih]
  | char c s hnone ih => rw [readWith_char hnone, unescape_char hnone, ih]

/-- **Replacing an entity is the pass that knows this one alone.** -/
theorem replaceAll_eq {e : Entity} (he : e ∈ entities) (s : Text) :
    Text.replaceAll e.text [e.char] s = readWith [e] s := by
  have hmark : e.text ≠ [] := List.cons_ne_nil _ _
  have hknown : [e] ⊆ entities := List.cons_subset.2 ⟨he, List.nil_subset _⟩
  induction s using pieces_induction [e] with
  | nil => rw [readWith_nil, Text.replaceAll_of_none (show Text.cut? e.text [] = none from rfl)]
  | entity f hf s ih =>
    rw [readWith_entity hknown hf, List.mem_singleton.1 hf, Text.replaceAll_mark hmark, ih]
    rfl
  | char c s hnone ih =>
    have hafter : Text.after? e.text (c :: s) = none := by
      rw [Option.eq_none_iff_forall_ne_some]
      intro rest hrest
      exact entity?_eq_none_iff.1 hnone e List.mem_cons_self rest (Text.after?_eq_some.1 hrest)
    rw [readWith_char hnone, Text.replaceAll_cons hmark hafter, ih]

/-! ### One more replacement -/

theorem char_ne_ampersand : ∀ e ∈ delimiters, e.char ≠ '&' := by decide

/-- A run of name characters is read as itself. -/
theorem readWith_run {run : Text} (hrun : run.all isNameChar = true) (s : Text) :
    readWith known (run ++ s) = run ++ readWith known s := by
  induction run with
  | nil => rfl
  | cons c run ih =>
    rw [List.all_cons, Bool.and_eq_true] at hrun
    have hc : c ≠ '&' := by
      rintro rfl
      exact absurd hrun.1 (by decide)
    rw [List.cons_append, readWith_char (entity?_cons_of_ne hc _), ih hrun.2, List.cons_append]

/-- Where the pass gives a run of name characters, that run was written. -/
theorem exists_run_of_readWith (hknown : known ⊆ entities) {run s t : Text} (hrun : run.all isNameChar = true)
    (h : readWith known s = run ++ t) : ∃ rest, s = run ++ rest := by
  induction run generalizing s with
  | nil => exact ⟨s, rfl⟩
  | cons c run ih =>
    rw [List.all_cons, Bool.and_eq_true] at hrun
    cases s using pieces_induction known with
    | nil =>
      rw [readWith_nil] at h
      exact nomatch h
    | entity e he s =>
      -- what an entity stands for is no name character
      rw [readWith_entity hknown he] at h
      have hchar := (isNameChar_entities e (hknown he)).2
      rw [(List.cons.inj h).1, hrun.1] at hchar
      exact Bool.noConfusion hchar
    | char d s hnone =>
      rw [readWith_char hnone] at h
      obtain ⟨rfl, hmore⟩ := List.cons.inj h
      obtain ⟨rest, rfl⟩ := ih hrun.2 hmore
      exact ⟨rest, rfl⟩

/-- **One more replacement is one more entity known**, as long as the characters that came of the earlier ones cannot
belong to an entity. -/
theorem readWith_readWith (hknown : known ⊆ delimiters) {e : Entity} (he : e ∈ entities) (s : Text) :
    readWith [e] (readWith known s) = readWith (known ++ [e]) s := by
  have hentities : known ⊆ entities := fun f hf => List.mem_append_left _ (hknown hf)
  have hone : [e] ⊆ entities := List.cons_subset.2 ⟨he, List.nil_subset _⟩
  have hmore : known ++ [e] ⊆ entities := List.append_subset.2 ⟨hentities, hone⟩
  induction s using pieces_induction known with
  | nil => rw [readWith_nil, readWith_nil, readWith_nil]
  | entity f hf s ih =>
    have hchar : f.char ≠ '&' := char_ne_ampersand f (hknown hf)
    rw [readWith_entity hentities hf, readWith_entity hmore (List.mem_append_left _ hf),
      readWith_char (entity?_cons_of_ne hchar _), ih]
  | char c s hnone ih =>
    cases hfirst : entity? [e] (c :: s) with
    | some found =>
      -- the entity to be replaced stands here, before the first pass and after it
      obtain ⟨f, hf, -, hsame⟩ := exists_entity hfirst
      obtain rfl := List.mem_singleton.1 hf
      rw [Entity.text_append] at hsame
      obtain ⟨rfl, rfl⟩ := List.cons.inj hsame
      have hrun := (isNameChar_entities f he).1
      have hfirstPass : readWith known ('&' :: (f.ending ++ found.2)) = f.text ++ readWith known found.2 := by
        rw [readWith_char hnone, readWith_run hrun]
        rfl
      have hboth : readWith (known ++ [f]) ('&' :: (f.ending ++ found.2)) = f.char :: readWith (known ++ [f]) found.2 :=
        readWith_entity hmore (List.mem_append_right _ List.mem_cons_self) found.2
      rw [readWith_run hrun, readWith_run hrun, readWith_run hrun] at ih
      rw [hfirstPass, hboth, readWith_entity hone List.mem_cons_self, List.append_cancel_left ih]
    | none =>
      have hfirst' := entity?_eq_none_iff.1 hfirst
      have hnone' : entity? (known ++ [e]) (c :: s) = none := by
        refine entity?_eq_none_iff.2 fun f hf rest => ?_
        rcases List.mem_append.1 hf with hearlier | hlast
        · exact entity?_eq_none_iff.1 hnone f hearlier rest
        · exact hfirst' f hlast rest
      -- nor does the first pass make an entity here
      have hmade : entity? [e] (c :: readWith known s) = none := by
        refine entity?_eq_none_iff.2 fun f hf rest hsame => ?_
        rw [Entity.text_append] at hsame
        obtain ⟨rfl, hrest⟩ := List.cons.inj hsame
        have hrun := (isNameChar_entities f (hone hf)).1
        obtain ⟨written, rfl⟩ := exists_run_of_readWith hentities hrun hrest
        exact hfirst' f hf written rfl
      rw [readWith_char hnone, readWith_char hmade, readWith_char hnone', ih]

end Known

/-! ### All replacements -/

/-- A text with entities replaced, each one throughout the text before the next one. -/
def replaced (order : List Entity) (s : Text) : Text :=
  order.foldl (fun text e => Text.replaceAll e.text [e.char] text) s

/-- Replacing some of the four delimiters, after others, is the pass that knows all of these. -/
theorem replaced_readWith {known order : List Entity} (h : known ++ order ⊆ delimiters) (s : Text) :
    replaced order (readWith known s) = readWith (known ++ order) s := by
  induction order generalizing known with
  | nil => rw [List.append_nil]; rfl
  | cons e order ih =>
    rw [List.append_cons] at h ⊢
    obtain ⟨hearlier, hone⟩ := List.append_subset.1 (List.append_subset.1 h).1
    have he : e ∈ entities := List.mem_append_left _ (hone List.mem_cons_self)
    show replaced order (Text.replaceAll e.text [e.char] (readWith known s)) = _
    rw [replaceAll_eq he, readWith_readWith hearlier he, ih h]

theorem replaced_concat (order : List Entity) (e : Entity) (s : Text) :
    replaced (order ++ [e]) s = Text.replaceAll e.text [e.char] (replaced order s) := by
  rw [replaced, List.foldl_append]
  rfl

/-- **With the ampersand last, the order of the other four does not matter.** -/
theorem replaced_eq_unescape {order : List Entity} (horder : order.Perm delimiters) (s : Text) :
    replaced (order ++ [ampersand]) s = unescape s := by
  have hfour : order ⊆ delimiters := horder.subset
  have hpasses : replaced order s = readWith order s := by
    have hfirst := @replaced_readWith [] order hfour s
    rwa [readWith_unknown, List.nil_append] at hfirst
  have hlast : ampersand ∈ entities := List.mem_append_right _ List.mem_cons_self
  have hperm : (order ++ [ampersand]).Perm entities := horder.append_right [ampersand]
  calc replaced (order ++ [ampersand]) s
      = readWith [ampersand] (readWith order s) := by
        rw [replaced_concat, hpasses, replaceAll_eq hlast]
    _ = readWith (order ++ [ampersand]) s := readWith_readWith hfour hlast s
    _ = readWith entities s := readWith_congr hperm.subset (fun e => hperm.mem_iff) s
    _ = unescape s := readWith_entities s

/-! ### The loop -/

/-- Where the loop stands: what it has read so far, and what is left of the text. -/
structure Scan where
  read : Text
  rest : Text

namespace Scan

/-- One turn: up to the next ampersand, and over the entity that it begins, or over itself.  Without an ampersand there
is no turn. -/
def turn? (s : Scan) : Option Scan :=
  (Text.cut? ['&'] s.rest).map fun found =>
    match entity? entities ('&' :: found.2) with
    | some (c, rest) => ⟨s.read ++ (found.1 ++ [c]), rest⟩
    | none => ⟨s.read ++ (found.1 ++ ['&']), found.2⟩

/-- The loop ends after so many turns, and what it gives. -/
inductive Ends : Scan → Nat → Text → Prop
  | stop {s : Scan} (h : s.turn? = none) : Ends s 0 (s.read ++ s.rest)
  | turn {s t : Scan} {n : Nat} {out : Text} (h : s.turn? = some t) (hmore : Ends t n out) : Ends s (n + 1) out

/-- What is read in the end. -/
def meaning (s : Scan) : Text := s.read ++ unescape s.rest

variable {s t : Scan}

theorem meaning_of_stop (h : s.turn? = none) : s.meaning = s.read ++ s.rest := by
  have hmem : '&' ∉ s.rest := Text.not_mem_of_cut?_eq_none (Option.map_eq_none_iff.1 h)
  rw [meaning, unescape_eq_self hmem]

/-- **A turn changes nothing of what is read in the end, and leaves fewer ampersands.** -/
theorem meaning_of_turn (h : s.turn? = some t) :
    t.meaning = s.meaning ∧ t.rest.count '&' < s.rest.count '&' := by
  obtain ⟨⟨front, after⟩, hcut, hturn⟩ := Option.map_eq_some_iff.1 h
  obtain ⟨hrest, -⟩ := Text.cut?_eq_some_iff.1 hcut
  have hfront : '&' ∉ front := Text.not_mem_of_cut?_eq_some hcut
  have hmeaning : s.meaning = s.read ++ (front ++ unescape ('&' :: after)) := by
    rw [meaning, hrest, unescape_append_of_not_mem hfront]
    rfl
  have hcount : s.rest.count '&' = after.count '&' + 1 := by
    rw [hrest, List.count_append, List.count_eq_zero.2 hfront]
    simp
  cases hentity : entity? entities ('&' :: after) with
  | none =>
    rw [hentity] at hturn
    subst hturn
    constructor
    · rw [hmeaning, unescape_char hentity, meaning]
      simp
    · show after.count '&' < _
      omega
  | some found =>
    obtain ⟨c, rest⟩ := found
    rw [hentity] at hturn
    subst hturn
    obtain ⟨e, he, rfl, hsame⟩ := exists_entity hentity
    constructor
    · rw [hmeaning, meaning, hsame, unescape_entity he]
      simp
    · show rest.count '&' < _
      rw [Entity.text_append] at hsame
      rw [hcount, (List.cons.inj hsame).2, List.count_append]
      omega

/-- Whatever the loop gives when it ends is what is read in the end. -/
theorem Ends.eq_meaning {n : Nat} {out : Text} (h : s.Ends n out) : out = s.meaning := by
  induction h with
  | stop h => exact (meaning_of_stop h).symm
  | turn h _ ih => rw [ih, (meaning_of_turn h).1]

/-- **The loop ends**, within as many turns as there are ampersands. -/
theorem exists_ends (s : Scan) : ∃ n ≤ s.rest.count '&', s.Ends n s.meaning := by
  induction hcount : s.rest.count '&' using Nat.strongRecOn generalizing s with
  | ind k ih =>
    cases h : s.turn? with
    | none => exact ⟨0, Nat.zero_le _, meaning_of_stop h ▸ .stop h⟩
    | some t =>
      obtain ⟨hmeaning, hfewer⟩ := meaning_of_turn h
      rw [hcount] at hfewer
      obtain ⟨n, hn, hends⟩ := ih _ hfewer t rfl
      exact ⟨n + 1, by omega, .turn h (hmeaning ▸ hends)⟩

end Scan

/-! ### Sizes -/

/-- No entity is shorter than its character, in characters or in bytes. -/
theorem size_entities : ∀ e ∈ entities, 1 ≤ e.text.length ∧ e.char.utf8Size ≤ e.text.byteSize := by decide

theorem length_unescape_le (s : Text) : (unescape s).length ≤ s.length := by
  induction s using pieces_induction entities with
  | nil => exact Nat.le_refl _
  | entity e he s ih =>
    rw [unescape_entity he, List.length_cons, List.length_append]
    have := (size_entities e he).1
    omega
  | char c s hnone ih =>
    rw [unescape_char hnone]
    exact Nat.succ_le_succ ih

theorem byteSize_unescape_le (s : Text) : (unescape s).byteSize ≤ s.byteSize := by
  induction s using pieces_induction entities with
  | nil => exact Nat.le_refl _
  | entity e he s ih =>
    rw [unescape_entity he, Text.byteSize, Text.byteSize_append]
    have := (size_entities e he).2
    omega
  | char c s hnone ih =>
    rw [unescape_char hnone]
    exact Nat.add_le_add_left ih _

/-! ### Main statement -/

/-- **Reading is plain replacement.**  On every text: the four delimiters replaced in any order and then the ampersand
give what reading gives; the loop comes to an end, and whenever it does it gives just that; and what is read is never
longer than what was written, in characters and in bytes. -/
theorem unescape_eq_replaced (raw : Text) :
    (∀ order : List Entity, order.Perm delimiters → unescape raw = replaced (order ++ [ampersand]) raw)
    ∧ (∃ n ≤ raw.count '&', Scan.Ends ⟨[], raw⟩ n (unescape raw))
    ∧ (∀ n out, Scan.Ends ⟨[], raw⟩ n out → out = unescape raw)
    ∧ (unescape raw).length ≤ raw.length ∧ (unescape raw).byteSize ≤ raw.byteSize := by
  refine ⟨fun order horder => (replaced_eq_unescape horder raw).symm, Scan.exists_ends ⟨[], raw⟩, ?_, ?_⟩
  · intro n out hends
    exact hends.eq_meaning
  · exact ⟨length_unescape_le raw, byteSize_unescape_le raw⟩

/-- Ampersands alone, doubled and at the end, an entity written as data, and one that another one stands in. -/
def tangled : Text := "&&amp;amp;lt; &l&gt;t;&amp".toList

/-- From the last delimiter to the first, the tangled text is read as in one pass: nothing is read twice. -/
theorem unescape_tangled :
    delimiters.reverse.Perm delimiters
      ∧ replaced (delimiters.reverse ++ [ampersand]) tangled = "&&amp;lt; &l>t;&amp".toList := by
  have horder : delimiters.reverse.Perm delimiters := List.reverse_perm delimiters
  refine ⟨horder, ?_⟩
  rw [← (unescape_eq_replaced tangled).1 delimiters.reverse horder]
  decide

end Markup

end Multiples
