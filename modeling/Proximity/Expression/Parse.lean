import Proximity.Expression.Operand
import Proximity.Expression.Split

/-!
# Proximity expressions

An expression is two operands with an operator between them. Its parts are checked from left to right,
the operator last.
-/
namespace Proximity
set_option autoImplicit false

/-- A proximity expression after analysis. -/
structure Expression where
  left : Operand
  operator : Operator
  right : Operand
  deriving DecidableEq, Repr

/-- Parses an expression for a field. -/
def Expression.parse (field raw : String) (analyzer : Analyzer) (phrases : Bool) :
    Outcome Expression := do
  let split ← Split.ofExpression raw
  let left ← Operand.classify field split.left analyzer phrases
  let right ← Operand.classify field split.right analyzer phrases
  let operator ← Operator.parse split.operator
  return ⟨left, operator, right⟩

end Proximity
