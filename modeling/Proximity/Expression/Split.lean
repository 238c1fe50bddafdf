import Proximity.Expression.Operator
import Proximity.Text.Blank

/-!
# Splitting an expression

The operator of an expression is the last letter with digits behind it that leaves something on both
sides. Its digits are the whole run, unless the run ends the text; then the last digit is what the
operator leaves on its right.
-/
namespace Proximity
set_option autoImplicit false

/-- The parts of an expression before they are analyzed. -/
structure Split where
  left : String
  operator : String
  right : String
  deriving DecidableEq, Repr

/-- How many digits in front of a text belong to an operator: the whole run, but never the last
character of the text. -/
def operatorDigits (cs : List Char) : Nat :=
  if (cs.dropWhile Char.isDigit).isEmpty then (cs.takeWhile Char.isDigit).length - 1
  else (cs.takeWhile Char.isDigit).length

/-- An operator at the front of a text, and what it leaves behind it. -/
def operatorInFront : List Char → Option (List Char × List Char)
  | [] => none
  | c :: cs =>
    if isOperatorLetter c && operatorDigits cs ≠ 0 then
      some (c :: cs.take (operatorDigits cs), cs.drop (operatorDigits cs))
    else none

/-- The last place of a text where an operator stands in front of the rest: what comes before it, the
operator, and what comes after. -/
def lastOperator : List Char → Option (List Char × List Char × List Char)
  | [] => none
  | c :: cs =>
    match lastOperator cs with
    | some (left, op, right) => some (c :: left, op, right)
    | none => (operatorInFront (c :: cs)).map fun (op, right) => ([], op, right)

/-- The text before the operator, the operator and the text after it, none of them empty. -/
def splitOperator : List Char → Option (List Char × List Char × List Char)
  | [] => none
  | c :: cs => (lastOperator cs).map fun (left, op, right) => (c :: left, op, right)

/-! ## The parts give the text back -/

theorem append_of_operatorInFront {text op right : List Char}
    (h : operatorInFront text = some (op, right)) : op ++ right = text := by
  cases text with
  | nil => exact nomatch h
  | cons c cs =>
    rw [operatorInFront] at h
    split at h
    · obtain ⟨rfl, rfl⟩ := Prod.mk.inj (Option.some.inj h)
      rw [List.cons_append, List.take_append_drop]
    · exact nomatch h

theorem append_of_lastOperator {text left op right : List Char}
    (h : lastOperator text = some (left, op, right)) : left ++ op ++ right = text := by
  induction text generalizing left with
  | nil => exact nomatch h
  | cons c cs ih =>
    rw [lastOperator] at h
    split at h
    · next left' op' right' hcs =>
      obtain ⟨rfl, rfl, rfl⟩ := Option.some.inj h
      rw [List.cons_append, List.cons_append, ih hcs]
    · obtain ⟨⟨op', right'⟩, hfront, hparts⟩ := Option.map_eq_some_iff.mp h
      obtain ⟨rfl, rfl, rfl⟩ := hparts
      exact append_of_operatorInFront hfront

theorem append_of_splitOperator {text left op right : List Char}
    (h : splitOperator text = some (left, op, right)) : left ++ op ++ right = text := by
  cases text with
  | nil => exact nomatch h
  | cons c cs =>
    obtain ⟨⟨left', op', right'⟩, hlast, hparts⟩ := Option.map_eq_some_iff.mp h
    obtain ⟨rfl, rfl, rfl⟩ := hparts
    rw [List.cons_append, List.cons_append, append_of_lastOperator hlast]

/-- Splits an expression into its two sides and its operator. -/
def Split.ofExpression (raw : String) : Outcome Split :=
  let text := Text.trim raw.toList
  match splitOperator text with
  | none => .error (.malformedAt .missingOperator (String.ofList text))
  | some (left, op, right) =>
    .ok ⟨String.ofList (Text.trim left), String.ofList op, String.ofList (Text.trim right)⟩

end Proximity
