import Proximity.Json.Value

/-!
# Numerals

The parts of a number as they are read from a text, and the number that they stand for. An integer
that fits 64 bits is kept as it is; any other number becomes a decimal of at most 64 bits of
significand. The digits before the point that do not fit are dropped, and so are those behind it; but the
first digits behind the point are still taken if they fit.
-/
namespace Proximity.Json
set_option autoImplicit false

/-- The part of a numeral that was read last. -/
inductive NumeralPart where
  | sign
  | zero
  | whole
  | point
  | fraction
  | mark
  | exponentSign
  | exponent
  deriving DecidableEq, Repr

/-- A numeral under way. The digits of each part stand in reverse order. -/
structure Numeral where
  negative : Bool
  whole : List Char
  fraction : List Char
  exponentNegative : Bool
  exponent : List Char
  part : NumeralPart
  deriving DecidableEq, Repr

/-- The value of some decimal digits. -/
def digitsValue (ds : List Char) : Nat :=
  Nat.ofDigitChars 10 ds 0

/-- Reads digits onto a value as long as it stays below a limit, and returns the digits left over. -/
def takeBelow (limit : Nat) : Nat → List Char → Nat × List Char
  | n, [] => (n, [])
  | n, d :: ds =>
    let m := 10 * n + (d.toNat - '0'.toNat)
    if m < limit then takeBelow limit m ds else (n, d :: ds)

namespace Numeral

/-- The numeral that begins with a minus sign. -/
def minus : Numeral :=
  ⟨true, [], [], false, [], .sign⟩

/-- The numeral that begins with a digit. -/
def ofDigit (d : Char) : Numeral :=
  ⟨false, [d], [], false, [], if d = '0' then .zero else .whole⟩

/-- What a character does to a numeral: it continues it, ends it, or cannot stand there. -/
inductive Step where
  | continued (n : Numeral)
  | ended
  | refused

/-- A digit is required. -/
def requireDigit (c : Char) (next : Numeral) : Step :=
  if c.isDigit then .continued next else .refused

/-- The numeral may go on with a point or an exponent. -/
def pointOrMark (n : Numeral) (c : Char) : Step :=
  if c = '.' then .continued { n with part := .point }
  else if c = 'e' ∨ c = 'E' then .continued { n with part := .mark }
  else .ended

/-- Takes up the next character. -/
def step (n : Numeral) (c : Char) : Step :=
  match n.part with
  | .sign =>
    requireDigit c { n with whole := [c], part := if c = '0' then .zero else .whole }
  | .zero => if c.isDigit then .refused else n.pointOrMark c
  | .whole =>
    if c.isDigit then .continued { n with whole := c :: n.whole } else n.pointOrMark c
  | .point => requireDigit c { n with fraction := [c], part := .fraction }
  | .fraction =>
    if c.isDigit then .continued { n with fraction := c :: n.fraction }
    else if c = 'e' ∨ c = 'E' then .continued { n with part := .mark }
    else .ended
  | .mark =>
    if c = '+' then .continued { n with part := .exponentSign }
    else if c = '-' then .continued { n with exponentNegative := true, part := .exponentSign }
    else requireDigit c { n with exponent := [c], part := .exponent }
  | .exponentSign => requireDigit c { n with exponent := [c], part := .exponent }
  | .exponent =>
    if c.isDigit then .continued { n with exponent := c :: n.exponent } else .ended

/-- Whether the numeral may end here. -/
def canEnd (n : Numeral) : Bool :=
  match n.part with
  | .zero | .whole | .fraction | .exponent => true
  | .sign | .point | .mark | .exponentSign => false

/-- The numeral as a decimal. -/
def toDecimal (n : Numeral) : Decimal :=
  let (whole, wholeLeft) := takeBelow UInt64.size 0 n.whole.reverse
  let (significand, fractionLeft) := takeBelow UInt64.size whole n.fraction.reverse
  let size : Int := digitsValue n.exponent.reverse
  let exponent := if n.exponentNegative then -size else size
  ⟨n.negative, significand,
    exponent + wholeLeft.length + fractionLeft.length - n.fraction.length⟩

/-- The number that the numeral stands for. -/
def toNumber (n : Numeral) : Number :=
  let size := digitsValue n.whole.reverse
  if n.part = .zero ∨ n.part = .whole then
    if n.negative then
      if 0 < size ∧ size ≤ UInt64.size / 2 then .integer (-(size : Int)) else .decimal n.toDecimal
    else if size < UInt64.size then .integer size
    else .decimal n.toDecimal
  else .decimal n.toDecimal

end Numeral

end Proximity.Json
