import Mathlib.Data.List.Nodup
import Multiples.Config.Rules

/-!
# What is complained about

Every rule is about one setting, and the complaints of all rules make up what is wrong with a configuration.  Here each
rule is said without its complaint, so that the list of problems can be compared with what it is a list of.

* `Config.Setting` — the settings that have a rule, in the order in which they are told;
* `Config.Obeys` — what the rule of a setting asks of a configuration;
* `Config.Agree` — two configurations have the same value for a setting;
* `Config.complaint?_eq_none_iff_obeys` — **a rule complains exactly if it is broken**;
* `Config.complaint?_congr` — and what it says depends on its own setting alone;
* `Config.problems_exactly` — the main statement: every problem is told, once and in order, and nothing else.
-/

namespace Multiples

namespace Config

/-! ### Settings and their rules -/

/-- The settings that have a rule. -/
inductive Setting where
  | bindAddress
  | maxBodySize
  | path
  | publicUrl
  | requestSecs
  | logLevel
  | logFormat
  | metricsAddress
deriving DecidableEq, Repr

namespace Setting

/-- All settings, in the order in which their problems are told. -/
def all : List Setting :=
  [.bindAddress, .maxBodySize, .path, .publicUrl, .requestSecs, .logLevel, .logFormat, .metricsAddress]

/-- The name by which a setting is told. -/
def name : Setting → Text
  | .bindAddress => "listener.bind_address".toList
  | .maxBodySize => "listener.max_body_size".toList
  | .path => "service.path".toList
  | .publicUrl => "service.public_url".toList
  | .requestSecs => "timeouts.request_secs".toList
  | .logLevel => "observability.log_level".toList
  | .logFormat => "observability.log_format".toList
  | .metricsAddress => "observability.metrics_address".toList

theorem mem_all (s : Setting) : s ∈ all := by cases s <;> decide

theorem nodup_names : (all.map name).Nodup := by decide

theorem name_inj {s t : Setting} (h : s.name = t.name) : s = t :=
  List.inj_on_of_nodup_map nodup_names (mem_all s) (mem_all t) h

/-- The complaint of the rule of a setting. -/
def complaint? (c : Config) : Setting → Option Text
  | .bindAddress => addressComplaint? c.listener.bindAddress
  | .maxBodySize => positiveComplaint? c.listener.maxBodySize
  | .path => pathComplaint? c.service.path
  | .publicUrl => presentComplaint? c.service.publicUrl
  | .requestSecs => positiveComplaint? c.timeouts.requestSecs
  | .logLevel => wordComplaint? logLevels c.observability.logLevel
  | .logFormat => wordComplaint? logFormats c.observability.logFormat
  | .metricsAddress =>
    if c.observability.metricsEnabled then addressComplaint? c.observability.metricsAddress else none

end Setting

/-- Each setting has one rule. -/
theorem rules_eq : rules = Setting.all.map fun s => ⟨s.name, s.complaint?⟩ := rfl

/-- A configuration obeys the rule of a setting: addresses are socket addresses, that of the metrics only if there are
metrics; limits are not zero; the path is a slash and more, without braces and question marks; there is a public URL;
and what is said about the log are words that are known. -/
def Obeys (c : Config) : Setting → Prop
  | .bindAddress => ∃ a, SocketAddress.parse? c.listener.bindAddress = some a
  | .maxBodySize => c.listener.maxBodySize ≠ 0
  | .path => c.service.path.head? = some '/' ∧ 2 ≤ c.service.path.byteSize
      ∧ ∀ mark ∈ ['\x7b', '\x7d', '?'], mark ∉ c.service.path
  | .publicUrl => c.service.publicUrl ≠ []
  | .requestSecs => c.timeouts.requestSecs ≠ 0
  | .logLevel => c.observability.logLevel ∈ ["trace", "debug", "info", "warn", "error"].map String.toList
  | .logFormat => c.observability.logFormat ∈ ["pretty", "json"].map String.toList
  | .metricsAddress => c.observability.metricsEnabled = true →
      ∃ a, SocketAddress.parse? c.observability.metricsAddress = some a

/-- Two configurations agree in a setting; whether there are metrics, and where, is one setting. -/
def Agree (c d : Config) : Setting → Prop
  | .bindAddress => c.listener.bindAddress = d.listener.bindAddress
  | .maxBodySize => c.listener.maxBodySize = d.listener.maxBodySize
  | .path => c.service.path = d.service.path
  | .publicUrl => c.service.publicUrl = d.service.publicUrl
  | .requestSecs => c.timeouts.requestSecs = d.timeouts.requestSecs
  | .logLevel => c.observability.logLevel = d.observability.logLevel
  | .logFormat => c.observability.logFormat = d.observability.logFormat
  | .metricsAddress => c.observability.metricsEnabled = d.observability.metricsEnabled
      ∧ c.observability.metricsAddress = d.observability.metricsAddress

/-! ### One rule -/

theorem addressComplaint?_eq_none_iff {value : Text} :
    addressComplaint? value = none ↔ ∃ a, SocketAddress.parse? value = some a := by
  rw [addressComplaint?, ← Option.isSome_iff_exists]
  split <;> simp [*]

theorem positiveComplaint?_eq_none_iff {value : UInt64} : positiveComplaint? value = none ↔ value ≠ 0 := by
  rw [positiveComplaint?]
  split <;> simp [*]

theorem pathComplaint?_eq_none_iff {value : Text} : pathComplaint? value = none
    ↔ value.head? = some '/' ∧ 2 ≤ value.byteSize ∧ ∀ mark ∈ ['\x7b', '\x7d', '?'], mark ∉ value := by
  rw [pathComplaint?]
  split
  · rename_i hshape
    refine iff_of_false nofun fun hpath => ?_
    rcases hshape with hslash | hshort
    · exact hslash hpath.1
    · exact Nat.not_lt_of_le hpath.2.1 hshort
  rename_i hshape
  rw [not_or, Decidable.not_not, Nat.not_lt] at hshape
  split
  · rename_i hmarks
    refine iff_of_false nofun fun hpath => ?_
    rcases hmarks with hmark | hmark | hmark
    · exact hpath.2.2 _ (by simp) hmark
    · exact hpath.2.2 _ (by simp) hmark
    · exact hpath.2.2 _ (by simp) hmark
  · rename_i hmarks
    rw [not_or, not_or] at hmarks
    exact iff_of_true rfl ⟨hshape.1, hshape.2, by simpa using hmarks⟩

theorem presentComplaint?_eq_none_iff {value : Text} : presentComplaint? value = none ↔ value ≠ [] := by
  rw [presentComplaint?]
  split <;> simp [*]

theorem wordComplaint?_eq_none_iff {words : List Text} {value : Text} :
    wordComplaint? words value = none ↔ value ∈ words := by
  rw [wordComplaint?]
  split <;> simp [*]

/-- **A rule complains exactly if it is broken.** -/
theorem complaint?_eq_none_iff_obeys {c : Config} {s : Setting} : s.complaint? c = none ↔ c.Obeys s := by
  cases s with
  | bindAddress => exact addressComplaint?_eq_none_iff
  | maxBodySize => exact positiveComplaint?_eq_none_iff
  | path => exact pathComplaint?_eq_none_iff
  | publicUrl => exact presentComplaint?_eq_none_iff
  | requestSecs => exact positiveComplaint?_eq_none_iff
  | logLevel => exact wordComplaint?_eq_none_iff
  | logFormat => exact wordComplaint?_eq_none_iff
  | metricsAddress =>
    rw [Setting.complaint?, Obeys]
    split
    · rename_i henabled
      simp [henabled, addressComplaint?_eq_none_iff]
    · rename_i hdisabled
      simp [hdisabled]

instance (c : Config) (s : Setting) : Decidable (c.Obeys s) := decidable_of_iff _ complaint?_eq_none_iff_obeys

/-- **What a rule says depends on its own setting alone.** -/
theorem complaint?_congr {c d : Config} {s : Setting} (h : Agree c d s) : s.complaint? c = s.complaint? d := by
  cases s with
  | metricsAddress => rw [Setting.complaint?, Setting.complaint?, h.1, h.2]
  | _ =>
    simp only [Agree] at h
    simp only [Setting.complaint?, h]

/-! ### All rules -/

/-- The problem with a setting. -/
def problem? (c : Config) (s : Setting) : Option Problem := (s.complaint? c).map (Problem.mk s.name)

theorem problems_eq (c : Config) : c.problems = Setting.all.filterMap c.problem? := by
  rw [problems, rules_eq, List.filterMap_map]
  rfl

theorem setting_of_problem? {c : Config} {s : Setting} {p : Problem} (h : c.problem? s = some p) :
    p.setting = s.name := by
  obtain ⟨complaint, -, rfl⟩ := Option.map_eq_some_iff.1 h
  rfl

theorem problem?_eq_none_iff {c : Config} {s : Setting} : c.problem? s = none ↔ c.Obeys s := by
  rw [problem?, Option.map_eq_none_iff, complaint?_eq_none_iff_obeys]

theorem problem?_congr {c d : Config} {s : Setting} (h : Agree c d s) : c.problem? s = d.problem? s := by
  rw [problem?, problem?, complaint?_congr h]

/-- The settings that have a problem are those whose rule is broken, in their order. -/
theorem map_setting_filterMap (c : Config) (settings : List Setting) :
    (settings.filterMap c.problem?).map Problem.setting
      = (settings.filter fun s => ¬ c.Obeys s).map Setting.name := by
  induction settings with
  | nil => rfl
  | cons s more ih =>
    cases hproblem : c.problem? s with
    | none =>
      have hobeys := problem?_eq_none_iff.1 hproblem
      rw [List.filterMap_cons_none hproblem, List.filter_cons_of_neg (by simpa using hobeys), ih]
    | some p =>
      have hbroken : ¬ c.Obeys s := by
        rw [← problem?_eq_none_iff, hproblem]
        exact nofun
      rw [List.filterMap_cons_some hproblem, List.filter_cons_of_pos (by simpa using hbroken), List.map_cons,
        List.map_cons, ih, setting_of_problem? hproblem]

/-- The problems with some settings are the problems that come from them. -/
theorem filter_filterMap (c : Config) (among : Text → Bool) (settings : List Setting) :
    ((settings.filterMap c.problem?).filter fun p => among p.setting)
      = (settings.filter fun s => among s.name).filterMap c.problem? := by
  rw [List.filter_filterMap, List.filterMap_filter]
  refine List.filterMap_congr fun s _ => ?_
  cases hproblem : c.problem? s with
  | none => simp
  | some p => simp [Option.filter, setting_of_problem? hproblem]

/-- Configurations that agree in some settings have the same problems with them. -/
theorem filter_problems_congr {c d : Config} (among : Text → Bool) (h : ∀ s, among s.name = true → Agree c d s) :
    (c.problems.filter fun p => among p.setting) = d.problems.filter fun p => among p.setting := by
  rw [problems_eq, problems_eq, filter_filterMap c among, filter_filterMap d among]
  exact List.filterMap_congr fun s hs => problem?_congr (h s (List.mem_filter.1 hs).2)

theorem problems_eq_nil_iff {c : Config} : c.problems = [] ↔ ∀ s, c.Obeys s := by
  rw [problems_eq, List.filterMap_eq_nil_iff]
  constructor
  · intro h s
    exact problem?_eq_none_iff.1 (h s (Setting.mem_all s))
  · intro h s _
    exact problem?_eq_none_iff.2 (h s)

/-- A configuration is accepted exactly if it obeys all rules. -/
theorem validate_eq_ok_iff {c : Config} : c.validate = .ok c ↔ ∀ s, c.Obeys s := by
  rw [← problems_eq_nil_iff, validate]
  split <;> simp [*]

/-! ### Main statement -/

/-- **Every problem is told, and nothing but problems.**  A configuration is accepted exactly if it obeys all rules;
else its problems are told, which name the settings whose rules are broken, each once and in their order.  What is told
about a setting depends on its value alone: configurations that agree in it get the same entry for it or none, and those
that agree in all others get the same other entries. -/
theorem problems_exactly (c : Config) :
    (c.validate = .ok c ↔ ∀ s, c.Obeys s)
    ∧ (c.validate = .error c.problems ↔ ∃ s, ¬ c.Obeys s)
    ∧ c.problems.map Problem.setting = (Setting.all.filter fun s => ¬ c.Obeys s).map Setting.name
    ∧ (c.problems.map Problem.setting).Nodup
    ∧ (∀ d s, Agree c d s →
        (c.problems.filter fun p => p.setting = s.name) = d.problems.filter fun p => p.setting = s.name)
    ∧ ∀ d s, (∀ t, t ≠ s → Agree c d t) →
        (c.problems.filter fun p => p.setting ≠ s.name) = d.problems.filter fun p => p.setting ≠ s.name := by
  have hnames : c.problems.map Problem.setting = (Setting.all.filter fun s => ¬ c.Obeys s).map Setting.name := by
    rw [problems_eq]
    exact map_setting_filterMap c Setting.all
  refine ⟨validate_eq_ok_iff, ?_, hnames, ?_, fun d s hagree => ?_, fun d s hagree => ?_⟩
  · rw [← not_forall, ← problems_eq_nil_iff, validate]
    split <;> simp [*]
  · rw [hnames]
    exact Setting.nodup_names.sublist (List.filter_sublist.map Setting.name)
  · refine filter_problems_congr (fun name => decide (name = s.name)) fun t ht => ?_
    rwa [Setting.name_inj (of_decide_eq_true ht)]
  · refine filter_problems_congr (fun name => decide (name ≠ s.name)) fun t ht => hagree t ?_
    exact fun hsame => of_decide_eq_true ht (congrArg Setting.name hsame)

/-- A configuration with three problems, and a bad address for metrics that are not there. -/
def troubled : Config where
  listener := { maxBodySize := 0 }
  service := { path := "/\x7bid\x7d".toList }
  observability := { logLevel := "loud".toList, metricsAddress := "nowhere".toList }

/-- The address counts once there are metrics, and the other problems stay as they are. -/
theorem problems_of_troubled :
    let measured : Config := { troubled with observability := { troubled.observability with metricsEnabled := true } }
    troubled.problems.map Problem.setting
      = ["listener.max_body_size", "service.path", "observability.log_level"].map String.toList
    ∧ measured.problems.map Problem.setting
      = ["listener.max_body_size", "service.path", "observability.log_level", "observability.metrics_address"].map
          String.toList
    ∧ (troubled.problems.filter fun p => p.setting ≠ Setting.metricsAddress.name)
      = measured.problems.filter fun p => p.setting ≠ Setting.metricsAddress.name := by
  intro measured
  refine ⟨?_, ?_, (problems_exactly troubled).2.2.2.2.2 measured .metricsAddress ?_⟩
  · rw [(problems_exactly troubled).2.2.1]
    decide
  · rw [(problems_exactly measured).2.2.1]
    decide
  · intro t ht
    cases t with
    | metricsAddress => exact absurd rfl ht
    | _ => rfl

end Config

end Multiples
