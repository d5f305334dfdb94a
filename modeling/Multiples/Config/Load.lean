import Multiples.Config.Overlay
import Multiples.Config.Rules
import Multiples.Text.Utf8
import Multiples.Toml.Document

/-!
# Loading a configuration

`Config.parse` reads a document and holds it against the rules; `Config.load` does so for what stands under the name
of a file.  A configuration that comes out of them has no problems.
-/

namespace Multiples

/-- Why a file cannot be read. -/
inductive FileError where
  | notFound
  | isADirectory
  | invalidData
deriving DecidableEq, Repr

/-- Why there is no configuration. -/
inductive ConfigError where
  | file (e : FileError)
  | malformed
  | invalid (problems : List Config.Problem)
deriving DecidableEq, Repr

namespace Config

/-- Several problems in one message. -/
def problemsMessage (problems : List Problem) : Text :=
  "Validation failed: ".toList ++ Text.glue [',', ' '] (problems.map Problem.message)

/-- The configuration in a document. -/
def parse (doc : Text) : Except ConfigError Config :=
  match (Toml.read? doc).bind ofEntries? with
  | some c => c.validate.mapError .invalid
  | none => .error .malformed

/-- What stands under the name of a file. -/
inductive Stored where
  | nothing
  | directory
  | file (bytes : List UInt8)

/-- The configuration in a file. -/
def load : Stored → Except ConfigError Config
  | .nothing => .error (.file .notFound)
  | .directory => .error (.file .isADirectory)
  | .file bytes =>
    match Utf8.decode? bytes with
    | some doc => parse doc
    | none => .error (.file .invalidData)

/-! ## Small lemmas -/

theorem problems_of_validate {c d : Config} (h : c.validate = .ok d) : d = c ∧ d.problems = [] := by
  unfold validate at h
  split at h <;> simp_all

/-- **What is parsed satisfies every rule.** -/
theorem problems_of_parse {doc : Text} {c : Config} (h : parse doc = .ok c) : c.problems = [] := by
  unfold parse at h
  split at h
  · rename_i d _
    cases hv : d.validate with
    | error ps =>
      rw [hv] at h
      exact nomatch h
    | ok e =>
      rw [hv] at h
      cases h
      exact (problems_of_validate hv).2
  · simp at h

end Config

end Multiples
