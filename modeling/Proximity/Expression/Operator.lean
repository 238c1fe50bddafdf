import Proximity.Refusal

/-!
# Proximity operators

An operator is a letter and a distance, such as `w5` or `N10`: with `w` the operands keep their order,
with `n` they may stand in any order, and the distance bounds the positions between them.
-/
namespace Proximity
set_option autoImplicit false

/-- Whether the operands of a proximity keep their order. -/
inductive SpanOrder where
  | ordered
  | unordered
  deriving DecidableEq, Repr

namespace SpanOrder

/-- Whether the left operand has to come first. -/
def inOrder : SpanOrder → Bool
  | ordered => true
  | unordered => false

/-- The letter of an order. -/
def letter : SpanOrder → Char
  | ordered => 'w'
  | unordered => 'n'

/-- The letter of an order as a word. -/
def keyword (o : SpanOrder) : String :=
  String.ofList [o.letter]

/-- The order that a letter stands for. -/
def ofLetter? (c : Char) : Option SpanOrder :=
  if c = 'w' ∨ c = 'W' then some ordered
  else if c = 'n' ∨ c = 'N' then some unordered
  else none

end SpanOrder

/-- A letter of an operator. -/
def isOperatorLetter (c : Char) : Bool :=
  (SpanOrder.ofLetter? c).isSome

/-- A proximity operator. -/
structure Operator where
  order : SpanOrder
  distance : UInt32
  deriving DecidableEq, Repr

/-- The number of values of a distance. -/
def distanceLimit : Nat := UInt32.size

/-- Reads an operator from its letter and digits. -/
def Operator.parse (token : String) : Outcome Operator :=
  match token.toList with
  | [] => .error (.malformedAt .invalidOperator token)
  | c :: digits =>
    match SpanOrder.ofLetter? c with
    | none => .error (.malformedAt .invalidOperator token)
    | some order =>
      if digits.isEmpty || !digits.all Char.isDigit then
        .error (.malformedAt .invalidOperator token)
      else
        let distance := Nat.ofDigitChars 10 digits 0
        if distance < distanceLimit then .ok ⟨order, UInt32.ofNat distance⟩
        else .error (.malformedAt .distanceOutOfRange token)

/-- The text of an operator. -/
def Operator.text (op : Operator) : String :=
  String.ofList (op.order.letter :: Nat.toDigits 10 op.distance.toNat)

end Proximity
