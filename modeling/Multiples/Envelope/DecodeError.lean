import Multiples.Text.Quoted

/-!
# Decode errors

Why an envelope says nothing that can be used.
-/

namespace Multiples

/-- Why an envelope cannot be read: a field holds something else than a number, or a reply has no result. -/
inductive DecodeError where
  | invalidNumber (field token : Text)
  | missingResult
deriving DecidableEq, Repr

/-- The wording of a decode error; the offending token is quoted. -/
def DecodeError.message : DecodeError → Text
  | .invalidNumber field token => "invalid integer ".toList ++ token.quoted ++ " in <".toList ++ field ++ ['>']
  | .missingResult => "response carries neither <result> nor <faultstring>".toList

/-- The message about a token, from its beginning on. -/
theorem DecodeError.message_invalidNumber (field token : Text) : (invalidNumber field token).message
    = "invalid integer ".toList ++ (token.quoted ++ (" in <".toList ++ (field ++ ['>']))) := by
  show "invalid integer ".toList ++ token.quoted ++ " in <".toList ++ field ++ ['>'] = _
  simp only [List.append_assoc]

end Multiples
