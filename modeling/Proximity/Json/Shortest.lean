import Proximity.Json.Value

/-!
# Decimals as binary fractions

A decimal is read as the nearest double precision number. `Decimal.text` writes that number with the
fewest digits that read back as the same number: positional from `0.00001` up to sixteen digits before
the point, always with a digit after it, and with an exponent outside these bounds. Of two texts that
are equally short and equally near, the one with the even last digit is written.
-/
namespace Proximity.Json
set_option autoImplicit false

/-- The double precision number next to a decimal. The significand and the power of ten are rounded
before they are combined; below the smallest power the division is done in two steps. -/
def Decimal.toFloat (d : Decimal) : Float :=
  let m := Float.ofNat d.significand
  let size :=
    if d.significand = 0 then 0
    else if 308 < d.exponent then Float.ofScientific 1 false 400
    else if 0 ≤ d.exponent then m * Float.ofScientific 1 false d.exponent.toNat
    else if -308 ≤ d.exponent then m / Float.ofScientific 1 false (-d.exponent).toNat
    else if -616 ≤ d.exponent then
      m / Float.ofScientific 1 false 308 / Float.ofScientific 1 false (-d.exponent - 308).toNat
    else 0
  if d.negative then -size else size

/-- Whether a decimal is near enough to zero to have a nearest double precision number. -/
def Decimal.isFinite (d : Decimal) : Bool :=
  d.toFloat.isFinite

/-- The bounds of the numbers that are read as one double precision number, with that number between
them, all over the same denominator. -/
structure Neighbourhood where
  low : Nat
  middle : Nat
  high : Nat
  denominator : Nat
  closed : Bool

/-- The neighbourhood of a positive double precision number, from its bits. -/
def Neighbourhood.ofBits (bits : UInt64) : Neighbourhood :=
  let fraction := bits.toNat % Nat.pow 2 52
  let field := bits.toNat / Nat.pow 2 52 % Nat.pow 2 11
  let m := if field = 0 then fraction else fraction + Nat.pow 2 52
  let e := max field 1
  let below := if fraction = 0 ∧ 1 < field then 1 else 2
  let scale := Nat.pow 2 (e - 1075)
  ⟨(4 * m - below) * scale, 4 * m * scale, (4 * m + 2) * scale, 4 * Nat.pow 2 (1075 - e), m % 2 = 0⟩

namespace Neighbourhood

/-- Whether `a * 10 ^ up / 10 ^ down` lies in the neighbourhood. -/
def holds (n : Neighbourhood) (a up down : Nat) : Bool :=
  let x := a * Nat.pow 10 up * n.denominator
  let low := n.low * Nat.pow 10 down
  let high := n.high * Nat.pow 10 down
  if n.closed then low ≤ x && x ≤ high else low < x && x < high

/-- The decimal exponent of the first digit: the number is below `10 ^ (k + 1)` for the first `k`
from `-330` on for which that holds. -/
def leadingExponent (n : Neighbourhood) : Nat → Int → Int
  | 0, k => k
  | steps + 1, k =>
    if n.middle * Nat.pow 10 (-(k + 1)).toNat < n.denominator * Nat.pow 10 (k + 1).toNat then k
    else leadingExponent n steps (k + 1)

/-- The member with the fewest digits, as its digits and the exponent of the first of them, tried with
`count` digits and more. -/
def fewestDigits (n : Neighbourhood) (k : Int) : Nat → Nat → Nat × Int
  | 0, _ => (0, k)
  | steps + 1, count =>
    let unit := k - (count - 1 : Nat)
    let up := unit.toNat
    let down := (-unit).toNat
    let size := n.middle * Nat.pow 10 down
    let grid := n.denominator * Nat.pow 10 up
    let a := size / grid
    let lower := n.holds a up down
    let upper := n.holds (a + 1) up down
    let rest := 2 * (size % grid)
    let upperIsBetter := grid < rest || (rest = grid && a % 2 = 1)
    if lower && !(upper && upperIsBetter) then (a, k)
    else if upper then if a + 1 = Nat.pow 10 count then (1, k + 1) else (a + 1, k)
    else fewestDigits n k steps (count + 1)

end Neighbourhood

/-- Digits in positional or exponential form, given the decimal exponent of the first digit. -/
def layoutDigits (digits : List Char) (k : Int) : List Char :=
  if -5 ≤ k ∧ k < 0 then
    ['0', '.'] ++ List.replicate (-k - 1).toNat '0' ++ digits
  else if 0 ≤ k ∧ k ≤ 15 then
    let whole := k.toNat + 1
    if digits.length ≤ whole then digits ++ List.replicate (whole - digits.length) '0' ++ ['.', '0']
    else digits.take whole ++ ['.'] ++ digits.drop whole
  else
    let mantissa := if digits.length ≤ 1 then digits else digits.take 1 ++ ['.'] ++ digits.drop 1
    mantissa ++ ['e', if k < 0 then '-' else '+'] ++ Nat.toDigits 10 k.natAbs

/-- The shortest text of the nearest double precision number. -/
def Decimal.text (d : Decimal) : String :=
  let f := d.toFloat
  let sign := if d.negative then "-" else ""
  if f == 0 then sign ++ "0.0"
  else
    let n := Neighbourhood.ofBits (if d.negative then -f else f).toBits
    let (a, k) := n.fewestDigits (n.leadingExponent 660 (-330)) 17 1
    sign ++ String.ofList (layoutDigits (Nat.toDigits 10 a) k)

end Proximity.Json
