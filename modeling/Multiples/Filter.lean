import Multiples.Text.Basic

/-!
# The filter

The multiples of a divisor in a list of 64-bit integers, in order and with repetition.  The remainder is that of
machine division, whose one overflow, the least integer by minus one, leaves the remainder zero.  `multiplesOf` is the filter.
-/

namespace Multiples

/-- Why there is no list of multiples. -/
inductive FilterError where
  | divisionByZero
deriving DecidableEq, Repr

/-- The wording of a filter error. -/
def FilterError.message : FilterError → Text
  | .divisionByZero => "division by zero: divisor must be non-zero".toList

/-- The integers of a list that a divisor divides; zero divides nothing, not even an empty list. -/
def multiplesOf (divisor : Int64) (numbers : List Int64) : Except FilterError (List Int64) :=
  if divisor = 0 then .error .divisionByZero
  else .ok (numbers.filter fun n => n % divisor == 0)

end Multiples
