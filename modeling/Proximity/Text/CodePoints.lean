/-!
# Tables of code points

Character properties are kept as ascending tables. `inRanges` looks a code point up in a table of
closed ranges, `inRuns` in a table of ranges with a step. Both stop at the first entry that starts
after the code point.
-/
namespace Proximity.Text
set_option autoImplicit false

/-- Whether a code point lies in one of the closed ranges of an ascending table. -/
def inRanges : List (Nat × Nat) → Nat → Bool
  | [], _ => false
  | (first, last) :: rest, n =>
    if n < first then false
    else if n ≤ last then true
    else inRanges rest n

/-- Whether a code point is a member of one of the runs `(first, last, step)` of an ascending
table. -/
def inRuns : List (Nat × Nat × Nat) → Nat → Bool
  | [], _ => false
  | (first, last, step) :: rest, n =>
    if n < first then false
    else if n ≤ last ∧ (n - first) % step = 0 then true
    else inRuns rest n

end Proximity.Text
