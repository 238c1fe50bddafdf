import Proximity.Refusal
import Proximity.Text.Blank

/-!
# Percentages

The minimum of matching clauses is given as a percentage such as `75` or `75%`.
-/
namespace Proximity
set_option autoImplicit false

/-- The percentage that is used where none is given. -/
def defaultPercent : UInt32 := 100

/-- The text without one percent sign at its end. -/
def withoutPercentSign (cs : List Char) : List Char :=
  if cs.getLast? = some '%' then cs.dropLast else cs

/-- The digits of a percentage: the text without blanks, percent sign and plus sign. -/
def percentDigits (raw : String) : List Char :=
  match Text.trim (withoutPercentSign (Text.trim raw.toList)) with
  | '+' :: digits => digits
  | digits => digits

/-- Reads a percentage from zero to one hundred. -/
def parsePercent : Option String → Outcome UInt32
  | none => .ok defaultPercent
  | some raw =>
    let digits := percentDigits raw
    let percent := Nat.ofDigitChars 10 digits 0
    if digits.isEmpty || !digits.all Char.isDigit || UInt32.size ≤ percent then
      .error (.malformedAt .invalidMinimum raw)
    else if 100 < percent then .error (.malformedAt .minimumOutOfRange raw)
    else .ok (UInt32.ofNat percent)

end Proximity
