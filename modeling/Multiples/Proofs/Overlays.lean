import Mathlib.Data.List.Perm.Basic
import Multiples.Config.Load
import Multiples.Proofs.Complaints
import Multiples.Proofs.Tables

/-!
# A document laid over the defaults

A document gives values for some of the keys that are known, and every other setting keeps its default.  Nothing else in
the document counts: not the keys and tables that are unknown, not the order, not whether a section is empty or absent.

* `Config.Key`, `Config.given` — the known keys, and the value that a document gives for one;
* `Config.Key.Fits`, `Config.WellTyped` — values of the right type, and documents that have no others;
* `Config.Overlays` — the given values laid over the defaults are this configuration;
* `Config.ofEntries?_eq_some_iff` — **the settings of a document are the overlay**;
* `Config.Reordered` — the same entries in another order;
* `Config.parse_exactly` — the main statement.
-/

namespace Multiples

namespace Config

open Toml (Value Entries)

/-! ### Known keys -/

/-- The titles of the sections. -/
def titles : List Text := ["listener", "service", "timeouts", "observability"].map String.toList

/-- The keys that are known. -/
inductive Key where
  | bindAddress
  | maxBodySize
  | path
  | publicUrl
  | requestSecs
  | logLevel
  | logFormat
  | metricsEnabled
  | metricsAddress
deriving DecidableEq, Repr

namespace Key

/-- The title of the section of a key. -/
def title : Key → Text
  | .bindAddress | .maxBodySize => "listener".toList
  | .path | .publicUrl => "service".toList
  | .requestSecs => "timeouts".toList
  | .logLevel | .logFormat | .metricsEnabled | .metricsAddress => "observability".toList

/-- The name of a key in its section. -/
def name : Key → Text
  | .bindAddress => "bind_address".toList
  | .maxBodySize => "max_body_size".toList
  | .path => "path".toList
  | .publicUrl => "public_url".toList
  | .requestSecs => "request_secs".toList
  | .logLevel => "log_level".toList
  | .logFormat => "log_format".toList
  | .metricsEnabled => "metrics_enabled".toList
  | .metricsAddress => "metrics_address".toList

/-- A number as a value. -/
def number (n : UInt64) : Value := .integer n.toNat

/-- Whether a value is of the type of a key: a text, a natural number of 64 bits or a switch. -/
def Fits (v : Value) : Key → Prop
  | .maxBodySize | .requestSecs => ∃ n, v = number n
  | .metricsEnabled => ∃ b, v = .boolean b
  | _ => ∃ content, v = .string content

end Key

/-- The entries of a section; a section that is absent, or no table, has none. -/
def inner (entries : Entries) (title : Text) : Entries :=
  match entries.lookup title with
  | some (.table _ below) => below
  | _ => []

/-- The value that a document gives for a key. -/
def given (entries : Entries) (k : Key) : Option Value := (inner entries k.title).lookup k.name

/-- A section is a table, if it is there. -/
def Tabular (entries : Entries) (title : Text) : Prop :=
  ∀ v, entries.lookup title = some v → ∃ origin below, v = .table origin below

/-- Every section that is there is a table. -/
def Sectioned (entries : Entries) : Prop := ∀ title ∈ titles, Tabular entries title

/-- A document whose sections are tables and whose known keys have values of their types. -/
structure WellTyped (entries : Entries) : Prop where
  sectioned : Sectioned entries
  fits : ∀ k v, given entries k = some v → k.Fits v

/-! ### Overlays -/

/-- A setting is what is given for it, or what it is when nothing is given. -/
def Takes {α : Type} (means : α → Value) (missing : α) (found : Option Value) (a : α) : Prop :=
  found = some (means a) ∨ found = none ∧ a = missing

/-- Given values, laid over the defaults, are a configuration. -/
structure Overlays (found : Key → Option Value) (c : Config) : Prop where
  bindAddress : Takes .string ({} : Config).listener.bindAddress (found .bindAddress) c.listener.bindAddress
  maxBodySize : Takes Key.number ({} : Config).listener.maxBodySize (found .maxBodySize) c.listener.maxBodySize
  path : Takes .string ({} : Config).service.path (found .path) c.service.path
  publicUrl : Takes .string ({} : Config).service.publicUrl (found .publicUrl) c.service.publicUrl
  requestSecs : Takes Key.number ({} : Config).timeouts.requestSecs (found .requestSecs) c.timeouts.requestSecs
  logLevel : Takes .string ({} : Config).observability.logLevel (found .logLevel) c.observability.logLevel
  logFormat : Takes .string ({} : Config).observability.logFormat (found .logFormat) c.observability.logFormat
  metricsEnabled : Takes .boolean ({} : Config).observability.metricsEnabled (found .metricsEnabled)
    c.observability.metricsEnabled
  metricsAddress : Takes .string ({} : Config).observability.metricsAddress (found .metricsAddress)
    c.observability.metricsAddress

theorem exists_takes {α : Type} {means : α → Value} {found : Option Value} (missing : α)
    (h : ∀ v, found = some v → ∃ a, v = means a) : ∃ a, Takes means missing found a := by
  cases found with
  | none => exact ⟨missing, .inr ⟨rfl, rfl⟩⟩
  | some v =>
    obtain ⟨a, rfl⟩ := h v rfl
    exact ⟨a, .inl rfl⟩

theorem means_of_takes {α : Type} {means : α → Value} {missing a : α} {found : Option Value} {v : Value}
    (h : Takes means missing found a) (hfound : found = some v) : ∃ a, v = means a := by
  rcases h with hgiven | ⟨habsent, -⟩
  · exact ⟨a, Option.some.inj (hfound.symm.trans hgiven)⟩
  · rw [habsent] at hfound
    simp at hfound

/-- Values of the right types have an overlay. -/
theorem exists_overlays {found : Key → Option Value} (h : ∀ k v, found k = some v → k.Fits v) :
    ∃ c, Overlays found c := by
  obtain ⟨bindAddress, hbind⟩ := exists_takes ({} : Config).listener.bindAddress (h .bindAddress)
  obtain ⟨maxBodySize, hsize⟩ := exists_takes ({} : Config).listener.maxBodySize (h .maxBodySize)
  obtain ⟨path, hpath⟩ := exists_takes ({} : Config).service.path (h .path)
  obtain ⟨publicUrl, hurl⟩ := exists_takes ({} : Config).service.publicUrl (h .publicUrl)
  obtain ⟨requestSecs, hsecs⟩ := exists_takes ({} : Config).timeouts.requestSecs (h .requestSecs)
  obtain ⟨logLevel, hlevel⟩ := exists_takes ({} : Config).observability.logLevel (h .logLevel)
  obtain ⟨logFormat, hformat⟩ := exists_takes ({} : Config).observability.logFormat (h .logFormat)
  obtain ⟨metricsEnabled, henabled⟩ := exists_takes ({} : Config).observability.metricsEnabled (h .metricsEnabled)
  obtain ⟨metricsAddress, hmetrics⟩ := exists_takes ({} : Config).observability.metricsAddress (h .metricsAddress)
  exact ⟨⟨⟨bindAddress, maxBodySize⟩, ⟨path, publicUrl⟩, ⟨requestSecs⟩,
    ⟨logLevel, logFormat, metricsEnabled, metricsAddress⟩⟩,
    ⟨hbind, hsize, hpath, hurl, hsecs, hlevel, hformat, henabled, hmetrics⟩⟩

/-! ### Reading settings -/

theorem text?_eq_some_iff {v : Value} {content : Text} : text? v = some content ↔ v = .string content := by
  cases v <;> simp [text?]

theorem switch?_eq_some_iff {v : Value} {b : Bool} : switch? v = some b ↔ v = .boolean b := by
  cases v <;> simp [switch?]

/-- An integer that fits 64 bits with a sign is read as the number it is. -/
theorem number?_eq_some_iff {v : Value} {n : UInt64} (h : v.Sound) : number? v = some n ↔ v = Key.number n := by
  cases h with
  | @integer i hfits =>
    have hbound : i < 0x8000000000000000 := of_decide_eq_true (Bool.and_eq_true_iff.1 hfits).2
    rw [number?, Key.number]
    by_cases hsign : 0 ≤ i
    · obtain ⟨m, rfl⟩ := Int.eq_ofNat_of_zero_le hsign
      have hm : m < UInt64.size := by
        rw [UInt64.size]
        omega
      have hvalue : (UInt64.ofNat m).toNat = m := UInt64.toNat_ofNat_of_lt' hm
      rw [if_pos hsign, Int.toNat_natCast]
      constructor
      · intro hsame
        rw [← Option.some.inj hsame, hvalue]
      · intro hsame
        have hnat : m = n.toNat := Int.ofNat_inj.1 (Value.integer.inj hsame)
        rw [hnat, UInt64.ofNat_toNat]
    · rw [if_neg hsign]
      refine iff_of_false (by simp) fun hsame => hsign ?_
      rw [Value.integer.inj hsame]
      exact Int.natCast_nonneg _
  | _ => simp [number?, Key.number]

section Below

variable {below : Entries} {place : Nat} {name : Text}

/-- A setting of a table is the overlay of what the table gives. -/
theorem setting_eq_some_iff {α : Type} {read? : Value → Option α} {means : α → Value} {missing a : α}
    (h : ∀ v, below.lookup name = some v → (read? v = some a ↔ v = means a)) :
    (Section.named below).setting place name read? missing = some a
      ↔ Takes means missing (below.lookup name) a := by
  rw [Section.setting, Section.get?, Takes]
  split
  · rename_i v hv
    rw [hv, h v hv]
    simp
  · rename_i habsent
    rw [habsent]
    simp [eq_comm]

theorem text_setting {missing a : Text} : (Section.named below).setting place name text? missing = some a
    ↔ Takes .string missing (below.lookup name) a :=
  setting_eq_some_iff fun _ _ => text?_eq_some_iff

theorem switch_setting {missing a : Bool} : (Section.named below).setting place name switch? missing = some a
    ↔ Takes .boolean missing (below.lookup name) a :=
  setting_eq_some_iff fun _ _ => switch?_eq_some_iff

theorem Endpoint.ofSection?_eq_some_iff {e : Endpoint} : Endpoint.ofSection? (.named below) = some e
    ↔ Takes .string ({} : Endpoint).path (below.lookup "path".toList) e.path
      ∧ Takes .string ({} : Endpoint).publicUrl (below.lookup "public_url".toList) e.publicUrl := by
  obtain ⟨path, publicUrl⟩ := e
  simp [Endpoint.ofSection?, Option.bind_eq_some_iff, text_setting]

theorem Observability.ofSection?_eq_some_iff {o : Observability} : Observability.ofSection? (.named below) = some o
    ↔ Takes .string ({} : Observability).logLevel (below.lookup "log_level".toList) o.logLevel
      ∧ Takes .string ({} : Observability).logFormat (below.lookup "log_format".toList) o.logFormat
      ∧ Takes .boolean ({} : Observability).metricsEnabled (below.lookup "metrics_enabled".toList) o.metricsEnabled
      ∧ Takes .string ({} : Observability).metricsAddress (below.lookup "metrics_address".toList)
          o.metricsAddress := by
  obtain ⟨logLevel, logFormat, metricsEnabled, metricsAddress⟩ := o
  simp [Observability.ofSection?, Option.bind_eq_some_iff, text_setting, switch_setting, -Bool.exists_bool]

variable (h : Entries.Sound below)
include h

theorem number_setting {missing a : UInt64} : (Section.named below).setting place name number? missing = some a
    ↔ Takes Key.number missing (below.lookup name) a :=
  setting_eq_some_iff fun _ hv => number?_eq_some_iff (h.value hv)

theorem Listener.ofSection?_eq_some_iff {l : Listener} : Listener.ofSection? (.named below) = some l
    ↔ Takes .string ({} : Listener).bindAddress (below.lookup "bind_address".toList) l.bindAddress
      ∧ Takes Key.number ({} : Listener).maxBodySize (below.lookup "max_body_size".toList) l.maxBodySize := by
  obtain ⟨bindAddress, maxBodySize⟩ := l
  simp [Listener.ofSection?, Option.bind_eq_some_iff, text_setting, number_setting h]

theorem Timeouts.ofSection?_eq_some_iff {t : Timeouts} : Timeouts.ofSection? (.named below) = some t
    ↔ Takes Key.number ({} : Timeouts).requestSecs (below.lookup "request_secs".toList) t.requestSecs := by
  obtain ⟨requestSecs⟩ := t
  simp [Timeouts.ofSection?, Option.bind_eq_some_iff, number_setting h]

end Below

/-! ### Reading sections -/

theorem tabular_of_given {entries : Entries} {k : Key} {v : Value} (h : given entries k = some v) :
    Tabular entries k.title := by
  intro w hw
  rw [given, inner, hw] at h
  cases w with
  | table origin below => exact ⟨origin, below, rfl⟩
  | _ => simp at h

theorem sound_inner {entries : Entries} (h : Entries.Sound entries) (title : Text) :
    Entries.Sound (inner entries title) := by
  rw [inner]
  split
  · rename_i hv
    exact Toml.sound_table_iff.1 (h.value hv)
  · exact .nil

/-- A section that is absent is read as an empty one. -/
theorem section_setting {α : Type} {entries : Entries} {title : Text} {place : Nat} {ofSection? : Section → Option α}
    {missing : α} (h : Tabular entries title) (hempty : ofSection? (.named []) = some missing) :
    (Section.named entries).setting place title (section? ofSection?) missing
      = ofSection? (.named (inner entries title)) := by
  rw [Section.setting, Section.get?, inner]
  cases hv : entries.lookup title with
  | none => exact hempty.symm
  | some v =>
    obtain ⟨origin, below, rfl⟩ := h v hv
    rfl

theorem ofEntries?_eq_some_iff_sections {entries : Entries} {c : Config} : ofEntries? entries = some c
    ↔ (Section.named entries).setting 0 "listener".toList (section? Listener.ofSection?) {} = some c.listener
      ∧ (Section.named entries).setting 1 "service".toList (section? Endpoint.ofSection?) {} = some c.service
      ∧ (Section.named entries).setting 2 "timeouts".toList (section? Timeouts.ofSection?) {} = some c.timeouts
      ∧ (Section.named entries).setting 3 "observability".toList (section? Observability.ofSection?) {}
          = some c.observability := by
  obtain ⟨listener, service, timeouts, observability⟩ := c
  simp [ofEntries?, Option.bind_eq_some_iff]

section Document

variable {entries : Entries} {c : Config} (hsound : Entries.Sound entries)
include hsound

theorem listener_setting {l : Listener} (h : Tabular entries "listener".toList) :
    (Section.named entries).setting 0 "listener".toList (section? Listener.ofSection?) {} = some l
      ↔ Takes .string ({} : Listener).bindAddress (given entries .bindAddress) l.bindAddress
        ∧ Takes Key.number ({} : Listener).maxBodySize (given entries .maxBodySize) l.maxBodySize := by
  rw [section_setting h (show Listener.ofSection? (.named []) = some {} from rfl)]
  exact Listener.ofSection?_eq_some_iff (sound_inner hsound _)

omit hsound in
theorem service_setting {e : Endpoint} (h : Tabular entries "service".toList) :
    (Section.named entries).setting 1 "service".toList (section? Endpoint.ofSection?) {} = some e
      ↔ Takes .string ({} : Endpoint).path (given entries .path) e.path
        ∧ Takes .string ({} : Endpoint).publicUrl (given entries .publicUrl) e.publicUrl := by
  rw [section_setting h (show Endpoint.ofSection? (.named []) = some {} from rfl)]
  exact Endpoint.ofSection?_eq_some_iff

theorem timeouts_setting {t : Timeouts} (h : Tabular entries "timeouts".toList) :
    (Section.named entries).setting 2 "timeouts".toList (section? Timeouts.ofSection?) {} = some t
      ↔ Takes Key.number ({} : Timeouts).requestSecs (given entries .requestSecs) t.requestSecs := by
  rw [section_setting h (show Timeouts.ofSection? (.named []) = some {} from rfl)]
  exact Timeouts.ofSection?_eq_some_iff (sound_inner hsound _)

omit hsound in
theorem observability_setting {o : Observability} (h : Tabular entries "observability".toList) :
    (Section.named entries).setting 3 "observability".toList (section? Observability.ofSection?) {} = some o
      ↔ Takes .string ({} : Observability).logLevel (given entries .logLevel) o.logLevel
        ∧ Takes .string ({} : Observability).logFormat (given entries .logFormat) o.logFormat
        ∧ Takes .boolean ({} : Observability).metricsEnabled (given entries .metricsEnabled) o.metricsEnabled
        ∧ Takes .string ({} : Observability).metricsAddress (given entries .metricsAddress) o.metricsAddress := by
  rw [section_setting h (show Observability.ofSection? (.named []) = some {} from rfl)]
  exact Observability.ofSection?_eq_some_iff

/-- **The settings of a document are the overlay** of what it gives. -/
theorem ofEntries?_eq_some_iff (h : Sectioned entries) :
    ofEntries? entries = some c ↔ Overlays (given entries) c := by
  rw [ofEntries?_eq_some_iff_sections, listener_setting hsound (h _ (by simp [titles])),
    service_setting (h _ (by simp [titles])), timeouts_setting hsound (h _ (by simp [titles])),
    observability_setting (h _ (by simp [titles]))]
  constructor
  · rintro ⟨⟨hbind, hsize⟩, ⟨hpath, hurl⟩, hsecs, hlevel, hformat, henabled, hmetrics⟩
    exact ⟨hbind, hsize, hpath, hurl, hsecs, hlevel, hformat, henabled, hmetrics⟩
  · intro hover
    exact ⟨⟨hover.bindAddress, hover.maxBodySize⟩, ⟨hover.path, hover.publicUrl⟩, hover.requestSecs, hover.logLevel,
      hover.logFormat, hover.metricsEnabled, hover.metricsAddress⟩

/-- **A known key has a value of its type**, or the document has no settings at all. -/
theorem fits_of_ofEntries? {k : Key} {v : Value} (h : ofEntries? entries = some c)
    (hv : given entries k = some v) : k.Fits v := by
  obtain ⟨hlistener, hservice, htimeouts, hobservability⟩ := ofEntries?_eq_some_iff_sections.1 h
  have htab : Tabular entries k.title := tabular_of_given hv
  cases k with
  | bindAddress => exact means_of_takes ((listener_setting hsound htab).1 hlistener).1 hv
  | maxBodySize => exact means_of_takes ((listener_setting hsound htab).1 hlistener).2 hv
  | path => exact means_of_takes ((service_setting htab).1 hservice).1 hv
  | publicUrl => exact means_of_takes ((service_setting htab).1 hservice).2 hv
  | requestSecs => exact means_of_takes ((timeouts_setting hsound htab).1 htimeouts) hv
  | logLevel => exact means_of_takes ((observability_setting htab).1 hobservability).1 hv
  | logFormat => exact means_of_takes ((observability_setting htab).1 hobservability).2.1 hv
  | metricsEnabled => exact means_of_takes ((observability_setting htab).1 hobservability).2.2.1 hv
  | metricsAddress => exact means_of_takes ((observability_setting htab).1 hobservability).2.2.2 hv

end Document

/-! ### Order -/

/-- The same value, up to the order of the entries if it is a table; how a table was written does not matter. -/
def Alike (v w : Value) : Prop :=
  v = w ∨ ∃ origin other below more, v = .table origin below ∧ w = .table other more ∧ below.Perm more

/-- The same entries in another order, in the table and in its sections. -/
def Reordered (entries others : Entries) : Prop :=
  ∃ sorted, entries.Perm sorted ∧ List.Forall₂ (fun a b => a.1 = b.1 ∧ Alike a.2 b.2) sorted others

theorem lookup_alike {sorted others : Entries}
    (h : List.Forall₂ (fun a b => a.1 = b.1 ∧ Alike a.2 b.2) sorted others) (title : Text) :
    Option.Rel Alike (sorted.lookup title) (others.lookup title) := by
  induction h with
  | nil => exact .none
  | @cons a b _ _ hab _ ih =>
    obtain ⟨title', v⟩ := a
    obtain ⟨_, w⟩ := b
    obtain ⟨rfl, halike⟩ := hab
    by_cases hkey : title = title'
    · subst hkey
      rw [List.lookup_cons_self, List.lookup_cons_self]
      exact .some halike
    · have hne : (title == title') = false := by simpa using hkey
      rw [List.lookup_cons, List.lookup_cons, hne]
      exact ih

section Reordering

variable {entries others : Entries} (hsound : Entries.Sound entries) (h : Reordered entries others)
include hsound h

/-- A section has the same entries as before, in some order. -/
theorem alike_of_reordered (title : Text) : Option.Rel Alike (entries.lookup title) (others.lookup title) := by
  obtain ⟨sorted, hperm, halike⟩ := h
  rw [Toml.lookup_perm hsound.distinct hperm title]
  exact lookup_alike halike title

theorem tabular_of_reordered {title : Text} (htab : Tabular entries title) : Tabular others title := by
  intro w hw
  have hrel := alike_of_reordered hsound h title
  rw [hw] at hrel
  cases hv : entries.lookup title with
  | none =>
    rw [hv] at hrel
    cases hrel
  | some v =>
    rw [hv] at hrel
    obtain ⟨origin, below, rfl⟩ := htab v hv
    cases hrel with
    | some halike =>
      rcases halike with hsame | ⟨_, other, _, more, _, hw', _⟩
      · exact ⟨origin, below, hsame.symm⟩
      · exact ⟨other, more, hw'⟩

theorem inner_perm (title : Text) : (inner entries title).Perm (inner others title) := by
  have hrel := alike_of_reordered hsound h title
  rw [inner, inner]
  generalize entries.lookup title = v, others.lookup title = w at hrel
  cases hrel with
  | none => exact .nil
  | some halike =>
    rcases halike with rfl | ⟨_, _, below, more, rfl, rfl, hperm⟩
    · exact .refl _
    · exact hperm

/-- **The order of sections and keys does not matter.** -/
theorem given_reordered : given entries = given others := by
  funext k
  exact Toml.lookup_perm (sound_inner hsound k.title).distinct (inner_perm hsound h k.title) k.name

end Reordering

/-! ### Main statement -/

theorem parse_of_settings {doc : Text} {entries : Entries} {c : Config} (hread : Toml.read? doc = some entries)
    (h : ofEntries? entries = some c) : parse doc = c.validate.mapError .invalid := by
  rw [parse, hread, Option.bind_some, h]

theorem parse_of_no_settings {doc : Text} {entries : Entries} (hread : Toml.read? doc = some entries)
    (h : ofEntries? entries = none) : parse doc = .error .malformed := by
  rw [parse, hread, Option.bind_some, h]

/-- What is given decides, for documents whose sections are tables. -/
theorem parse_congr {doc other : Text} {entries others : Entries} (hread : Toml.read? doc = some entries)
    (hother : Toml.read? other = some others) (hsections : Sectioned entries) (hsections' : Sectioned others)
    (hgiven : given entries = given others) : parse doc = parse other := by
  have hsame : ofEntries? entries = ofEntries? others := by
    refine Option.ext fun c => ?_
    rw [ofEntries?_eq_some_iff (Toml.sound_of_read? hread) hsections,
      ofEntries?_eq_some_iff (Toml.sound_of_read? hother) hsections', hgiven]
  rw [parse, parse, hread, hother, Option.bind_some, Option.bind_some, hsame]

theorem validate_cases (c : Config) :
    c.validate = .ok c ∨ ∃ problems, c.validate = .error problems := by
  rw [validate]
  split
  · exact .inl rfl
  · exact .inr ⟨_, rfl⟩

/-- **A document is laid over the defaults, and the result is validated.**  If all known keys have values of their
types, there is one configuration that takes what is given and the defaults for the rest, and it is what comes out if it
is valid, else exactly its problems do.  A known key with a value of another type, or a number out of range, spoils the
document whatever else it says, and so does a text that is no document.  Documents that give the same for the known
keys are parsed to the same, whatever else they hold and in whatever order.  All that is parsed satisfies every rule. -/
theorem parse_exactly (doc : Text) :
    (∀ entries, Toml.read? doc = some entries → WellTyped entries →
      ∃ c, Overlays (given entries) c ∧ (∀ d, Overlays (given entries) d → d = c)
        ∧ ((c.validate = .ok c ∧ parse doc = .ok c)
          ∨ ∃ problems, c.validate = .error problems ∧ parse doc = .error (.invalid problems)))
    ∧ (∀ entries k v, Toml.read? doc = some entries → given entries k = some v → ¬ k.Fits v →
        parse doc = .error .malformed)
    ∧ (∀ entries k i, Toml.read? doc = some entries → given entries k = some (.integer i) →
        Decimal.fitsInt64 i = true)
    ∧ (Toml.read? doc = none → parse doc = .error .malformed)
    ∧ (∀ other entries others, Toml.read? doc = some entries → Toml.read? other = some others →
        Sectioned entries → Sectioned others → (∀ k, given entries k = given others k) → parse doc = parse other)
    ∧ (∀ other entries others, Toml.read? doc = some entries → Toml.read? other = some others →
        Sectioned entries → Reordered entries others → parse doc = parse other)
    ∧ ∀ c, parse doc = .ok c → ∀ s, c.Obeys s := by
  refine ⟨fun entries hread htyped => ?_, fun entries k v hread hgiven hbad => ?_,
    fun entries k i hread hgiven => ?_, fun hnone => ?_,
    fun other entries others hread hother hsections hsections' hgiven => ?_,
    fun other entries others hread hother hsections horder => ?_, fun c hparse => ?_⟩
  · obtain ⟨c, hc⟩ := exists_overlays htyped.fits
    have hiff : ∀ d, ofEntries? entries = some d ↔ Overlays (given entries) d := fun d =>
      ofEntries?_eq_some_iff (Toml.sound_of_read? hread) htyped.sectioned
    have hsome : ofEntries? entries = some c := (hiff c).2 hc
    refine ⟨c, hc, fun d hd => ?_, ?_⟩
    · exact Option.some.inj (((hiff d).2 hd).symm.trans hsome)
    · rw [parse_of_settings hread hsome]
      rcases validate_cases c with hvalid | ⟨problems, hinvalid⟩
      · exact .inl ⟨hvalid, by rw [hvalid]; rfl⟩
      · exact .inr ⟨problems, hinvalid, by rw [hinvalid]; rfl⟩
  · cases hsettings : ofEntries? entries with
    | none => exact parse_of_no_settings hread hsettings
    | some c => exact absurd (fits_of_ofEntries? (Toml.sound_of_read? hread) hsettings hgiven) hbad
  · have hvalue := (sound_inner (Toml.sound_of_read? hread) k.title).value hgiven
    cases hvalue with
    | integer hfits => exact hfits
  · rw [parse, hnone, Option.bind_none]
  · exact parse_congr hread hother hsections hsections' (funext hgiven)
  · have hsound := Toml.sound_of_read? hread
    have hsections' : Sectioned others := fun title htitle =>
      tabular_of_reordered hsound horder (hsections title htitle)
    exact parse_congr hread hother hsections hsections' (given_reordered hsound horder)
  · exact problems_eq_nil_iff.1 (problems_of_parse hparse)

/-- A document that gives two settings, by a dotted key and in an inline table, behind a key that is unknown. -/
def scattered : Text :=
  ("colour = 1\n" ++ "listener.max_body_size = 2_048\n" ++ "observability = \x7b log_level = \"debug\" \x7d\n").toList

/-- A document with a limit that is not allowed, and one that is below zero. -/
def negative : Text := ("[listener]\n" ++ "max_body_size = 0\n" ++ "[timeouts]\n" ++ "request_secs = -1\n").toList

/-- The first is read as its two settings and the defaults; the second has no settings, and its limit is not told. -/
theorem parse_of_scattered :
    parse scattered = .ok { listener := { maxBodySize := 2048 }, observability := { logLevel := "debug".toList } }
    ∧ parse negative = .error .malformed := by
  constructor
  · obtain ⟨entries, hentries⟩ : ∃ entries : Entries, entries = [("colour".toList, .integer 1),
      ("listener".toList, .table .dotted [("max_body_size".toList, .integer 2048)]),
      ("observability".toList, .table .inline [("log_level".toList, .string "debug".toList)])] := ⟨_, rfl⟩
    -- the characters one by one, so that the string is not decoded again wherever a reader looks at one
    have hchars : scattered =
        ['c', 'o', 'l', 'o', 'u', 'r', ' ', '=', ' ', '1', '\n', 'l', 'i', 's', 't', 'e', 'n', 'e', 'r', '.', 'm',
         'a', 'x', '_', 'b', 'o', 'd', 'y', '_', 's', 'i', 'z', 'e', ' ', '=', ' ', '2', '_', '0', '4', '8', '\n',
         'o', 'b', 's', 'e', 'r', 'v', 'a', 'b', 'i', 'l', 'i', 't', 'y', ' ', '=', ' ', '\x7b', ' ', 'l', 'o', 'g',
         '_', 'l', 'e', 'v', 'e', 'l', ' ', '=', ' ', '"', 'd', 'e', 'b', 'u', 'g', '"', ' ', '\x7d', '\n'] := by
      decide +kernel
    have hread : Toml.read? scattered = some entries := by
      rw [hchars, hentries]
      rfl
    have htyped : WellTyped entries := by
      subst hentries
      constructor
      · intro title htitle v hv
        simp only [titles, List.map_cons, List.map_nil, List.mem_cons, List.not_mem_nil, or_false] at htitle
        rcases htitle with rfl | rfl | rfl | rfl
        · exact ⟨.dotted, _, (Option.some.inj hv).symm⟩
        · cases hv
        · cases hv
        · exact ⟨.inline, _, (Option.some.inj hv).symm⟩
      · intro k v hv
        cases k with
        | maxBodySize => exact ⟨2048, (Option.some.inj hv).symm⟩
        | logLevel => exact ⟨_, (Option.some.inj hv).symm⟩
        | _ => cases hv
    obtain ⟨c, -, hunique, hparse⟩ := (parse_exactly scattered).1 entries hread htyped
    have hc : { listener := { maxBodySize := 2048 }, observability := { logLevel := "debug".toList } } = c := by
      subst hentries
      exact hunique _ ⟨.inr ⟨rfl, rfl⟩, .inl rfl, .inr ⟨rfl, rfl⟩, .inr ⟨rfl, rfl⟩, .inr ⟨rfl, rfl⟩, .inl rfl,
        .inr ⟨rfl, rfl⟩, .inr ⟨rfl, rfl⟩, .inr ⟨rfl, rfl⟩⟩
    rcases hparse with ⟨-, hok⟩ | ⟨problems, hinvalid, -⟩
    · rw [hok, ← hc]
    · have hproblems : c.problems = [] := by
        rw [← hc]
        decide +kernel
      rw [validate, if_pos hproblems] at hinvalid
      cases hinvalid
  · have hchars : negative =
        ['[', 'l', 'i', 's', 't', 'e', 'n', 'e', 'r', ']', '\n', 'm', 'a', 'x', '_', 'b', 'o', 'd', 'y', '_', 's',
         'i', 'z', 'e', ' ', '=', ' ', '0', '\n', '[', 't', 'i', 'm', 'e', 'o', 'u', 't', 's', ']', '\n', 'r', 'e',
         'q', 'u', 'e', 's', 't', '_', 's', 'e', 'c', 's', ' ', '=', ' ', '-', '1', '\n'] := by decide +kernel
    have hread : Toml.read? negative = some [("listener".toList, .table .header [("max_body_size".toList, .integer 0)]),
        ("timeouts".toList, .table .header [("request_secs".toList, .integer (-1))])] := by
      rw [hchars]
      rfl
    refine (parse_exactly negative).2.1 _ .requestSecs (.integer (-1)) hread rfl ?_
    rintro ⟨n, hn⟩
    have hsign : (-1 : Int) = n.toNat := Value.integer.inj hn
    omega

end Config

end Multiples
