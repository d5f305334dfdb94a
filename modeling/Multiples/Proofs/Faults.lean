import Multiples.Proofs.Answers
import Multiples.Proofs.Quotation

/-!
# Faults that tell their failure

What is told of a failure begins in one of seven ways, by its kind, and none of these begins another one.  What follows
is the data of the failure: a quoted token, which ends where it does whatever it holds, with the name of a field after
it; or the reason why a body could not be read, to the end.  So the message tells the failure, and the document tells
the message.

* `FailureKind.opening` — how the messages of a kind begin; `FailureKind.eq_of_begins` — they begin differently;
* `Failure.message_inj` — **a message tells its failure**;
* `Service.refuse_inj` — two refusals are the same document exactly if they are of the same failure.
-/

namespace Multiples

/-- The kinds of failures. -/
inductive FailureKind where
  | number
  | noResult
  | division
  | body
  | encoding
  | timeout
  | breakdown
deriving DecidableEq, Repr

/-- How the messages of a kind begin. -/
def FailureKind.opening : FailureKind → Text
  | .number => "invalid integer ".toList
  | .noResult => "response carries".toList
  | .division => "division by zero".toList
  | .body => "request body could not be read: ".toList
  | .encoding => "request body is".toList
  | .timeout => "request timed out".toList
  | .breakdown => "internal error".toList

/-- All kinds of failures. -/
def FailureKind.kinds : List FailureKind := [.number, .noResult, .division, .body, .encoding, .timeout, .breakdown]

theorem FailureKind.mem_kinds (k : FailureKind) : k ∈ kinds := by
  cases k <;> decide

/-- No kind begins as another one does. -/
theorem FailureKind.eq_of_begins {k l : FailureKind} (h : k.opening <+: l.opening) : k = l := by
  have hall : ∀ k ∈ kinds, ∀ l ∈ kinds, k.opening <+: l.opening → k = l := by decide +kernel
  exact hall k k.mem_kinds l l.mem_kinds h

namespace Failure

def kind : Failure → FailureKind
  | .decode (.invalidNumber _ _) => .number
  | .decode .missingResult => .noResult
  | .filter .divisionByZero => .division
  | .body _ => .body
  | .notUtf8 => .encoding
  | .timeout => .timeout
  | .internal => .breakdown

/-- A message begins as its kind does. -/
theorem opening_begins (f : Failure) : f.kind.opening <+: f.message := by
  cases f with
  | decode e =>
    cases e with
    | invalidNumber field token =>
      show "invalid integer ".toList <+: (DecodeError.invalidNumber field token).message
      rw [DecodeError.message_invalidNumber]
      exact List.prefix_append _ _
    | missingResult =>
      show "response carries".toList <+: "response carries neither <result> nor <faultstring>".toList
      decide +kernel
  | filter e =>
    cases e with
    | divisionByZero =>
      show "division by zero".toList <+: "division by zero: divisor must be non-zero".toList
      decide +kernel
  | body reason => exact List.prefix_append _ reason
  | notUtf8 =>
    show "request body is".toList <+: "request body is not valid UTF-8".toList
    decide +kernel
  | timeout => exact List.prefix_rfl
  | internal => exact List.prefix_rfl

/-- So messages that are the same are told of failures of one kind. -/
theorem kind_eq_of_message {f g : Failure} (h : f.message = g.message) : f.kind = g.kind := by
  have hf := f.opening_begins
  rw [h] at hf
  rcases List.prefix_or_prefix_of_prefix hf g.opening_begins with hshort | hlong
  · exact FailureKind.eq_of_begins hshort
  · exact (FailureKind.eq_of_begins hlong).symm

/-- Two failures of one kind: only those with data can differ. -/
inductive Alike : Failure → Failure → Prop
  | number (field token field' token' : Text) :
      Alike (.decode (.invalidNumber field token)) (.decode (.invalidNumber field' token'))
  | body (reason reason' : Text) : Alike (.body reason) (.body reason')
  | same (f : Failure) : Alike f f

theorem alike_of_kind_eq {f g : Failure} (h : f.kind = g.kind) : Alike f g := by
  rcases f with (⟨field, token⟩ | _) | ⟨⟩ | reason | _ | _ | _ <;>
    rcases g with (⟨field', token'⟩ | _) | ⟨⟩ | reason' | _ | _ | _ <;>
    first
    | exact .number field token field' token'
    | exact .body reason reason'
    | exact .same _
    | cases h

/-- **A message tells its failure**, whatever a token or a reason holds and whatever a field is called. -/
theorem message_inj {f g : Failure} (h : f.message = g.message) : f = g := by
  cases alike_of_kind_eq (kind_eq_of_message h) with
  | number field token field' token' =>
    change (DecodeError.invalidNumber field token).message = (DecodeError.invalidNumber field' token').message at h
    rw [DecodeError.message_invalidNumber, DecodeError.message_invalidNumber, List.append_right_inj] at h
    -- the token ends at its closing quote, the field at the end of the message
    obtain ⟨rfl, hrest⟩ := Text.quoted_append_inj h
    rw [List.append_right_inj, List.append_left_inj] at hrest
    rw [hrest]
  | body reason reason' => rw [List.append_cancel_left h]
  | same f => rfl

end Failure

namespace Service

/-! ### Main statement -/

/-- **Distinct failures give distinct faults.**  Two refusals are the same document exactly if they are of the same
failure, of one kind and with the same field and token or the same reason; and the message about a token tells the
field and the token, whatever they are. -/
theorem refuse_inj (f g : Failure) :
    ((refuse f).body = (refuse g).body ↔ f = g)
    ∧ ∀ field token field' token' : Text,
        (DecodeError.invalidNumber field token).message = (DecodeError.invalidNumber field' token').message
          ↔ field = field' ∧ token = token' := by
  refine ⟨⟨fun h => Failure.message_inj (message_eq_of_refuse_eq h), fun h => by rw [h]⟩, ?_⟩
  intro field token field' token'
  constructor
  · intro h
    have hsame : Failure.decode (.invalidNumber field token) = .decode (.invalidNumber field' token') :=
      Failure.message_inj h
    injection hsame with herror
    injection herror with hfield htoken
    exact ⟨hfield, htoken⟩
  · rintro ⟨rfl, rfl⟩
    rfl

end Service

end Multiples
