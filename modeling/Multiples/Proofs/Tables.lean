import Mathlib.Data.List.Nodup
import Multiples.Toml.Document

/-!
# What a document can hold

Whatever a text says, the table that is read from it has every key once, and so have the tables in it; and its integers
fit 64 bits.  Readers say so of the values they take, and what adds to a table keeps it so.

* `Reader.Gives` — whatever a reader takes has a property; one lemma for each way to combine readers;
* `Toml.Value.Sound`, `Toml.Entries.Sound` — what holds of the values and tables of a document;
* `Toml.Keeps` — a change of a table that keeps it sound; one lemma for each change a statement makes;
* `Toml.sound_of_read?` — **every table that is read is sound**;
* `Toml.lookup_perm` — in a sound table the order of the entries does not matter.
-/

namespace Multiples

/-! ### Readers -/

namespace Reader

variable {α β : Type} {P : α → Prop} {Q : β → Prop}

/-- Whatever a reader takes has a property. -/
def Gives (r : Reader α) (P : α → Prop) : Prop := ∀ s a rest, r s = some (a, rest) → P a

theorem gives_any (r : Reader α) : Gives r fun _ => True := fun _ _ _ _ => trivial

theorem gives_pure {a : α} (h : P a) : Gives (pure a) P := by
  intro s b rest hb
  have hsame : some (a, s) = some (b, rest) := hb
  simp only [Option.some.injEq, Prod.mk.injEq] at hsame
  rwa [← hsame.1]

theorem gives_failure : Gives (failure : Reader α) P := by
  intro s a rest ha
  have hnone : (none : Option (α × Text)) = some (a, rest) := ha
  simp at hnone

theorem gives_guard (p : Prop) [Decidable p] : Gives (guard p) fun _ => p := by
  intro s a rest ha
  by_cases hp : p
  · exact hp
  · rw [guard, if_neg hp] at ha
    have hnever : Gives (failure : Reader Unit) fun _ => p := gives_failure
    exact hnever s a rest ha

theorem gives_bind {r : Reader α} {f : α → Reader β} (hr : Gives r P) (hf : ∀ a, P a → Gives (f a) Q) :
    Gives (r >>= f) Q := by
  intro s b rest hb
  have hsteps : ((r s).bind fun taken => f taken.1 taken.2) = some (b, rest) := hb
  obtain ⟨⟨a, left⟩, ha, hb⟩ := Option.bind_eq_some_iff.1 hsteps
  exact hf a (hr s a left ha) left b rest hb

/-- What was taken before does not matter to what is taken last. -/
theorem gives_then {r : Reader α} {f : α → Reader β} (hf : ∀ a, Gives (f a) Q) : Gives (r >>= f) Q :=
  gives_bind (gives_any r) fun a _ => hf a

theorem gives_orElse {r q : Reader α} (hr : Gives r P) (hq : Gives q P) : Gives (r <|> q) P := by
  intro s a rest ha
  have hone : (r s).orElse (fun _ => q s) = some (a, rest) := ha
  cases hfirst : r s with
  | none =>
    rw [hfirst, Option.orElse_none] at hone
    exact hq s a rest hone
  | some taken =>
    rw [hfirst, Option.orElse_some] at hone
    exact hr s a rest (hfirst.trans hone)

theorem gives_maybe {r : Reader α} (hr : Gives r P) : Gives (maybe r) fun found => ∀ a ∈ found, P a := by
  refine gives_orElse (gives_bind hr fun a ha => gives_pure ?_) (gives_pure (by simp))
  simpa using ha

/-- Each time round the reader starts on what it has left. -/
theorem gives_along {r : Reader α} (hr : Gives r P) (bound : Text) :
    Gives (along r bound) fun taken => ∀ a ∈ taken, P a := by
  induction bound with
  | nil => exact gives_pure (by simp)
  | cons _ left ih =>
    refine gives_orElse (gives_bind hr fun a ha => gives_bind ih fun more hmore => gives_pure ?_)
      (gives_pure (by simp))
    simpa using ⟨ha, hmore⟩

theorem gives_many {r : Reader α} (hr : Gives r P) : Gives (many r) fun taken => ∀ a ∈ taken, P a :=
  fun s => gives_along hr s s

theorem gives_separated {r : Reader α} {sep : Reader Unit} (hr : Gives r P) :
    Gives (separated r sep) fun taken => ∀ a ∈ taken, P a := by
  refine gives_bind hr fun a ha => gives_bind (gives_many (gives_then fun _ => hr)) fun more hmore => gives_pure ?_
  simpa using ⟨ha, hmore⟩

theorem of_whole? {r : Reader α} {s : Text} {a : α} (hr : Gives r P) (h : whole? r s = some a) : P a := by
  rw [whole?] at h
  split at h
  · rename_i taken htaken
    rw [← Option.some.inj h]
    exact hr s taken [] htaken
  · simp at h

end Reader

namespace Toml

open Reader

/-! ### Sound values -/

/-- The keys of a table. -/
def keys (entries : Entries) : List Text := entries.map Prod.fst

/-- A value whose integers fit 64 bits, and whose tables have every key once. -/
inductive Value.Sound : Value → Prop where
  | string (content : Text) : Sound (.string content)
  | integer {i : Int} (fits : Decimal.fitsInt64 i = true) : Sound (.integer i)
  | boolean (b : Bool) : Sound (.boolean b)
  | float : Sound .float
  | moment : Sound .moment
  | array {items : List Value} (sound : ∀ v ∈ items, Sound v) : Sound (.array items)
  | table {origin : Origin} {entries : Entries} (distinct : (keys entries).Nodup)
      (sound : ∀ e ∈ entries, Sound e.2) : Sound (.table origin entries)
  | tables {earlier : List Entries} {last : Entries}
      (distinct : ∀ entries ∈ earlier ++ [last], (keys entries).Nodup)
      (sound : ∀ entries ∈ earlier ++ [last], ∀ e ∈ entries, Sound e.2) : Sound (.tables earlier last)

/-- A table that has every key once, and sound values. -/
structure Entries.Sound (entries : Entries) : Prop where
  distinct : (keys entries).Nodup
  values : ∀ e ∈ entries, e.2.Sound

theorem sound_table_iff {origin : Origin} {entries : Entries} :
    Value.Sound (.table origin entries) ↔ Entries.Sound entries := by
  constructor
  · intro h
    cases h with
    | table hdistinct hvalues => exact ⟨hdistinct, hvalues⟩
  · intro h
    exact .table h.distinct h.values

theorem sound_tables_iff {earlier : List Entries} {last : Entries} :
    Value.Sound (.tables earlier last) ↔ ∀ entries ∈ earlier ++ [last], Entries.Sound entries := by
  constructor
  · intro h entries hentries
    cases h with
    | tables hdistinct hvalues => exact ⟨hdistinct entries hentries, hvalues entries hentries⟩
  · intro h
    exact .tables (fun entries hentries => (h entries hentries).distinct) fun entries hentries =>
      (h entries hentries).values

/-! ### Looking up -/

/-- A key that is there once is looked up where it stands. -/
theorem lookup_eq_some_iff_mem {entries : Entries} {key : Text} {v : Value} (h : (keys entries).Nodup) :
    entries.lookup key = some v ↔ (key, v) ∈ entries := by
  induction entries with
  | nil => simp
  | cons e more ih =>
    obtain ⟨other, w⟩ := e
    rw [keys, List.map_cons, List.nodup_cons] at h
    by_cases hkey : key = other
    · subst hkey
      have habsent : (key, v) ∉ more := fun hmem => h.1 (List.mem_map.2 ⟨(key, v), hmem, rfl⟩)
      simp [List.lookup_cons_self, habsent, eq_comm]
    · have hne : (key == other) = false := by simpa using hkey
      rw [List.lookup_cons, hne, List.mem_cons]
      simp [hkey, ih h.2]

theorem lookup_eq_none_iff_not_mem {entries : Entries} {key : Text} :
    entries.lookup key = none ↔ key ∉ keys entries := by
  rw [List.lookup_eq_none_iff, keys, List.mem_map]
  constructor
  · rintro h ⟨e, he, rfl⟩
    simpa using h e he
  · intro h e he
    simpa using fun hkey => h ⟨e, he, Eq.symm hkey⟩

/-- **The order of the entries does not matter.** -/
theorem lookup_perm {entries other : Entries} (h : (keys entries).Nodup) (hperm : entries.Perm other) (key : Text) :
    entries.lookup key = other.lookup key := by
  have hother : (keys other).Nodup := (hperm.map Prod.fst).nodup_iff.1 h
  refine Option.ext fun v => ?_
  rw [lookup_eq_some_iff_mem h, lookup_eq_some_iff_mem hother]
  exact hperm.mem_iff

/-! ### Growing sound tables -/

namespace Entries.Sound

theorem nil : Entries.Sound [] := ⟨List.nodup_nil, by simp⟩

theorem value {entries : Entries} {key : Text} {v : Value} (h : Entries.Sound entries)
    (hv : entries.lookup key = some v) : v.Sound :=
  h.values (key, v) ((lookup_eq_some_iff_mem h.distinct).1 hv)

theorem snoc {entries : Entries} {key : Text} {v : Value} (h : Entries.Sound entries)
    (hnew : entries.lookup key = none) (hv : v.Sound) : Entries.Sound (entries ++ [(key, v)]) := by
  constructor
  · rw [keys, List.map_append, List.map_singleton, ← List.concat_eq_append]
    exact h.distinct.concat (lookup_eq_none_iff_not_mem.1 hnew)
  · intro e he
    rcases List.mem_append.1 he with hold | hadded
    · exact h.values e hold
    · rw [List.mem_singleton.1 hadded]
      exact hv

theorem replace {entries : Entries} {key : Text} {v : Value} (h : Entries.Sound entries) (hv : v.Sound) :
    Entries.Sound (replace key v entries) := by
  have hkeys : keys (Toml.replace key v entries) = keys entries := by
    rw [keys, keys, Toml.replace, List.map_map]
    refine List.map_congr_left fun e _ => ?_
    by_cases hkey : e.1 = key <;> simp [hkey]
  constructor
  · rw [hkeys]
    exact h.distinct
  · intro e he
    obtain ⟨old, hold, rfl⟩ := List.mem_map.1 he
    by_cases hkey : old.1 = key
    · simpa [hkey] using hv
    · simpa [hkey] using h.values old hold

end Entries.Sound

/-- A change of a table that keeps it sound. -/
def Keeps (change : Entries → Option Entries) : Prop :=
  ∀ entries changed, Entries.Sound entries → change entries = some changed → Entries.Sound changed

/-- A change somewhere below keeps the whole table sound; every table on the way is made or entered as a sound one. -/
theorem keeps_changeAt {made : Origin} {enters : Origin → Bool} {change : Origin → Entries → Option Entries}
    (hchange : ∀ origin, Keeps (change origin)) (path : List Text) (origin : Origin) :
    Keeps (changeAt made enters change path origin) := by
  induction path generalizing origin with
  | nil => exact hchange origin
  | cons key path ih =>
    intro entries changed hsound h
    rw [changeAt] at h
    split at h
    · rename_i hnew
      obtain ⟨inner, hinner, hchanged⟩ := Option.bind_eq_some_iff.1 h
      rw [← Option.some.inj hchanged]
      exact hsound.snoc hnew (sound_table_iff.2 (ih made [] inner .nil hinner))
    · rename_i below old hold
      split at h
      · obtain ⟨inner, hinner, hchanged⟩ := Option.bind_eq_some_iff.1 h
        have hsub : Entries.Sound old := sound_table_iff.1 (hsound.value hold)
        rw [← Option.some.inj hchanged]
        exact hsound.replace (sound_table_iff.2 (ih below old inner hsub hinner))
      · simp at h
    · rename_i earlier last hold
      obtain ⟨inner, hinner, hchanged⟩ := Option.bind_eq_some_iff.1 h
      have hsub := sound_tables_iff.1 (hsound.value hold)
      rw [← Option.some.inj hchanged]
      refine hsound.replace (sound_tables_iff.2 fun t ht => ?_)
      rcases List.mem_append.1 ht with hearlier | hlast
      · exact hsub t (List.mem_append_left _ hearlier)
      · rw [List.mem_singleton.1 hlast]
        exact ih .header last inner (hsub last (by simp)) hinner
    · simp at h

theorem keeps_addNew {key : Text} {v : Value} (hv : v.Sound) : Keeps (addNew key v) := by
  intro entries changed hsound h
  rw [addNew] at h
  split at h
  · simp at h
  · rename_i hnew
    rw [← Option.some.inj h]
    exact hsound.snoc (Option.not_isSome_iff_eq_none.1 hnew) hv

theorem keeps_addTo (path : List Text) (key : Text) {v : Value} (hv : v.Sound) (origin : Origin) :
    Keeps (addTo path key v origin) := by
  refine keeps_changeAt (fun o entries changed hsound h => ?_) path origin
  split at h
  · exact keeps_addNew hv entries changed hsound h
  · simp at h

theorem keeps_openTable (name : Text) : Keeps (openTable name) := by
  intro entries changed hsound h
  rw [openTable] at h
  split at h
  · rename_i hnew
    rw [← Option.some.inj h]
    exact hsound.snoc hnew (sound_table_iff.2 .nil)
  · rename_i inner hold
    have hinner : Entries.Sound inner := sound_table_iff.1 (hsound.value hold)
    rw [← Option.some.inj h]
    exact hsound.replace (sound_table_iff.2 hinner)
  · simp at h

theorem keeps_openNext (name : Text) : Keeps (openNext name) := by
  intro entries changed hsound h
  rw [openNext] at h
  split at h
  · rename_i hnew
    rw [← Option.some.inj h]
    refine hsound.snoc hnew (sound_tables_iff.2 ?_)
    simpa using Entries.Sound.nil
  · rename_i earlier last hold
    have hsub := sound_tables_iff.1 (hsound.value hold)
    rw [← Option.some.inj h]
    refine hsound.replace (sound_tables_iff.2 fun t ht => ?_)
    rcases List.mem_append.1 ht with hthere | hadded
    · exact hsub t hthere
    · rw [List.mem_singleton.1 hadded]
      exact .nil
  · simp at h

theorem keeps_foldlM {α : Type} {add : Entries → α → Option Entries} {pairs : List α}
    (hadd : ∀ p ∈ pairs, Keeps fun entries => add entries p) : Keeps fun entries => pairs.foldlM add entries := by
  induction pairs with
  | nil =>
    intro entries changed hsound h
    rwa [← Option.some.inj h]
  | cons p more ih =>
    intro entries changed hsound h
    obtain ⟨grown, hgrown, hrest⟩ := Option.bind_eq_some_iff.1 h
    have hfirst : Entries.Sound grown := hadd p (by simp) entries grown hsound hgrown
    exact ih (fun q hq => hadd q (by simp [hq])) grown changed hfirst hrest

/-! ### Values that are read -/

theorem gives_integer : Gives integer fun i => Decimal.fitsInt64 i = true := by
  have hfitting : ∀ i : Int, Gives (fitting i) fun j => Decimal.fitsInt64 j = true := fun i =>
    gives_bind (gives_guard _) fun _ hfits => gives_pure hfits
  have hmarked : ∀ mark base kind, Gives (marked mark base kind) fun i => Decimal.fitsInt64 i = true :=
    fun _ _ _ => gives_then fun _ => gives_then fun _ => hfitting _
  have hdecimal : Gives decimalInteger fun i => Decimal.fitsInt64 i = true :=
    gives_then fun _ => gives_then fun _ => hfitting _
  exact gives_orElse (hmarked _ _ _) (gives_orElse (hmarked _ _ _) (gives_orElse (hmarked _ _ _) hdecimal))

theorem gives_scalar : Gives scalar Value.Sound := by
  refine gives_orElse (gives_then fun content => gives_pure (.string content)) ?_
  refine gives_orElse (gives_then fun _ => gives_pure .moment) ?_
  refine gives_orElse (gives_then fun _ => gives_pure .float) ?_
  refine gives_orElse (gives_bind gives_integer fun _ hfits => gives_pure (.integer hfits)) ?_
  exact gives_orElse (gives_then fun _ => gives_pure (.boolean true))
    (gives_then fun _ => gives_pure (.boolean false))

section Items

variable {item : Reader Value} (hitem : Gives item Value.Sound)
include hitem

theorem gives_array : Gives (array item) Value.Sound := by
  have hspaced : Gives (spaced item) Value.Sound :=
    gives_then fun _ => gives_bind hitem fun _ hv => gives_then fun _ => gives_pure hv
  have hitems : Gives (do
      let items ← separated (spaced item) (char ',')
      let _ ← maybe (char ',')
      pure items) fun items => ∀ v ∈ items, v.Sound :=
    gives_bind (gives_separated hspaced) fun _ hall => gives_then fun _ => gives_pure hall
  refine gives_then fun _ => gives_bind (gives_maybe hitems) fun found hfound => ?_
  refine gives_then fun _ => gives_then fun _ => gives_pure (.array ?_)
  cases found with
  | none => simp
  | some items => exact hfound items rfl

theorem gives_keyValue : Gives (keyValue item) fun pair => pair.2.Sound :=
  gives_then fun _ => gives_then fun _ => gives_then fun _ => gives_bind hitem fun _ hv => gives_pure hv

theorem gives_inlineTable : Gives (inlineTable item) Value.Sound := by
  have hpair : Gives (do
      let p ← keyValue item
      blanks
      pure p) fun pair => pair.2.Sound :=
    gives_bind (gives_keyValue hitem) fun _ hv => gives_then fun _ => gives_pure hv
  refine gives_then fun _ => gives_then fun _ => ?_
  refine gives_bind (gives_maybe (gives_separated hpair)) fun found hfound => gives_then fun _ => ?_
  have hpairs : ∀ p ∈ found.getD [], p.2.Sound := by
    cases found with
    | none => simp
    | some pairs => exact hfound pairs rfl
  split
  · rename_i entries hentries
    have hkeeps := keeps_foldlM fun p hp => keeps_addTo p.1.1 p.1.2 (hpairs p hp) .inline
    exact gives_pure (sound_table_iff.2 (hkeeps [] entries .nil hentries))
  · exact gives_failure

end Items

/-- Arrays and inline tables are sound as deep as they nest. -/
theorem gives_value (depth : Nat) : Gives (value depth) Value.Sound := by
  induction depth with
  | zero => exact gives_scalar
  | succ depth ih => exact gives_orElse gives_scalar (gives_orElse (gives_array ih) (gives_inlineTable ih))

/-! ### Documents -/

/-- A statement that adds nothing but a sound value. -/
def Statement.Sound : Statement → Prop
  | .entry _ _ v => v.Sound
  | _ => True

theorem gives_statement : Gives (arrayHeader <|> tableHeader <|> entry) Statement.Sound := by
  have hentry : Gives entry Statement.Sound :=
    gives_bind (gives_keyValue (gives_value depthLimit)) fun _ hv => gives_then fun _ => gives_pure hv
  have htable : Gives tableHeader Statement.Sound :=
    gives_then fun _ => gives_then fun _ => gives_then fun _ => gives_then fun _ => gives_pure trivial
  have harray : Gives arrayHeader Statement.Sound :=
    gives_then fun _ => gives_then fun _ => gives_then fun _ => gives_then fun _ => gives_pure trivial
  exact gives_orElse harray (gives_orElse htable hentry)

theorem gives_line : Gives line fun found => ∀ st ∈ found, st.Sound := by
  refine gives_bind (gives_orElse ?_ ?_) fun _ hfound => gives_then fun _ => gives_pure hfound
  · exact gives_then fun _ => gives_pure (by simp)
  · exact gives_bind gives_statement fun _ hst => gives_pure (by simpa using hst)

theorem gives_statements : Gives statements fun found => ∀ st ∈ found, st.Sound := by
  refine gives_then fun _ => gives_then fun _ => gives_bind (gives_many gives_line) fun lines hlines => ?_
  refine gives_then fun _ => gives_pure fun st hst => ?_
  obtain ⟨found, hfound, hsome⟩ := List.mem_filterMap.1 hst
  exact hlines found hfound st hsome

/-- **A statement keeps the document sound.** -/
theorem sound_add {d next : Draft} {st : Statement} (hd : Entries.Sound d.entries) (hst : st.Sound)
    (h : d.add st = some next) : Entries.Sound next.entries := by
  cases st with
  | header path name =>
    obtain ⟨entries, hentries, hnext⟩ := Option.bind_eq_some_iff.1 h
    rw [← Option.some.inj hnext]
    exact keeps_changeAt (fun _ => keeps_openTable name) path .header d.entries entries hd hentries
  | arrayHeader path name =>
    obtain ⟨entries, hentries, hnext⟩ := Option.bind_eq_some_iff.1 h
    rw [← Option.some.inj hnext]
    exact keeps_changeAt (fun _ => keeps_openNext name) path .header d.entries entries hd hentries
  | entry path key v =>
    obtain ⟨entries, hentries, hnext⟩ := Option.bind_eq_some_iff.1 h
    rw [← Option.some.inj hnext]
    exact keeps_changeAt (fun origin => keeps_addTo path key hst origin) d.current .header d.entries entries hd hentries

theorem sound_foldlM {found : List Statement} {d last : Draft} (hd : Entries.Sound d.entries)
    (hfound : ∀ st ∈ found, st.Sound) (h : found.foldlM Draft.add d = some last) : Entries.Sound last.entries := by
  induction found generalizing d with
  | nil => rwa [← Option.some.inj h]
  | cons st more ih =>
    obtain ⟨next, hnext, hrest⟩ := Option.bind_eq_some_iff.1 h
    exact ih (sound_add hd (hfound st (by simp)) hnext) (fun st hst => hfound st (by simp [hst])) hrest

/-- **Every table that is read is sound.** -/
theorem sound_of_read? {doc : Text} {entries : Entries} (h : read? doc = some entries) : Entries.Sound entries := by
  obtain ⟨found, hfound, hbuilt⟩ := Option.bind_eq_some_iff.1 h
  obtain ⟨draft, hdraft, hentries⟩ := Option.bind_eq_some_iff.1 hbuilt
  have hstatements : ∀ st ∈ found, st.Sound := of_whole? gives_statements hfound
  rw [← Option.some.inj hentries]
  exact sound_foldlM .nil hstatements hdraft

end Toml

end Multiples
