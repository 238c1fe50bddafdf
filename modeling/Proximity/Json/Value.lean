/-!
# JSON values

A JSON value keeps the members of an object in the order of the text, repetitions included, and a
number as the integer it is or as the decimal it was written as.

* `Value.depth` counts how deep arrays and objects are nested.
-/
namespace Proximity.Json
set_option autoImplicit false

/-- A number in scientific form: `significand * 10 ^ exponent`, with a sign. -/
structure Decimal where
  negative : Bool
  significand : Nat
  exponent : Int
  deriving DecidableEq, Repr

/-- A number: an integer of at most 64 bits, or any other number as a decimal. -/
inductive Number where
  | integer (value : Int)
  | decimal (value : Decimal)
  deriving DecidableEq, Repr

/-- A JSON value. -/
inductive Value where
  | null
  | bool (value : Bool)
  | number (value : Number)
  | string (value : String)
  | array (items : List Value)
  | object (members : List (String × Value))

/-- The greatest depth to which the arrays and objects of a document may be nested. -/
def maxDepth : Nat := 127

namespace Value

/-- A natural number as a value. -/
def natural (n : Nat) : Value :=
  .number (.integer n)

mutual

/-- How many arrays and objects are nested in each other. -/
def depth : Value → Nat
  | .array items => itemsDepth items + 1
  | .object members => membersDepth members + 1
  | _ => 0

/-- The greatest depth of some items. -/
def itemsDepth : List Value → Nat
  | [] => 0
  | v :: vs => max v.depth (itemsDepth vs)

/-- The greatest depth of the values of some members. -/
def membersDepth : List (String × Value) → Nat
  | [] => 0
  | (_, v) :: ms => max v.depth (membersDepth ms)

end

end Value

end Proximity.Json
