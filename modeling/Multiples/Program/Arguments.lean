import Multiples.Text.Basic

/-!
# Options on a command line

An option has a long and a short name.  Its value is attached, after an equals sign or, after the short name, right
away, or else it is the next argument.
-/

namespace Multiples

/-- An option that takes a value.  A free value may begin like an option. -/
structure CommandOption where
  long : Text
  short : Char
  free : Bool := false

namespace CommandOption

/-- How an argument gives an option. -/
inductive Given where
  | attached (value : Text)
  | next
deriving DecidableEq, Repr

/-- Whether and how an argument gives an option. -/
def given? (o : CommandOption) (argument : Text) : Option Given :=
  match Text.after? ('-' :: '-' :: o.long) argument with
  | some [] => some .next
  | some ('=' :: value) => some (.attached value)
  | _ =>
    match Text.after? ['-', o.short] argument with
    | some [] => some .next
    | some ('=' :: value) => some (.attached value)
    | some value => some (.attached value)
    | none => none

/-- Whether a next argument can be the value of an option. -/
def accepts (o : CommandOption) (argument : Text) : Bool :=
  o.free || argument.head? != some '-' || argument == ['-']

/-- What an option takes off the beginning of the arguments: nothing if it is not there, else its value, if it has one,
and the other arguments. -/
def take? (o : CommandOption) : List Text → Option (Option (Text × List Text))
  | [] => none
  | argument :: more =>
    match o.given? argument with
    | none => none
    | some (.attached value) => some (some (value, more))
    | some .next =>
      match more with
      | value :: more => if o.accepts value then some (some (value, more)) else some none
      | [] => some none

/-- An option takes at least one argument. -/
theorem length_take? {o : CommandOption} {arguments rest : List Text} {value : Text}
    (h : o.take? arguments = some (some (value, rest))) : rest.length < arguments.length := by
  cases arguments with
  | nil => simp [take?] at h
  | cons argument more =>
    simp only [take?] at h
    split at h
    · simp at h
    · simp only [Option.some.injEq, Prod.mk.injEq] at h
      rw [← h.2, List.length_cons]
      omega
    · split at h
      · split at h
        · simp only [Option.some.injEq, Prod.mk.injEq] at h
          rw [← h.2, List.length_cons, List.length_cons]
          omega
        · simp at h
      · simp at h

end CommandOption

/-- Whether an argument asks for help. -/
def asksForHelp (argument : Text) : Bool :=
  argument == "--help".toList || (Text.after? ['-', 'h'] argument).isSome

end Multiples
