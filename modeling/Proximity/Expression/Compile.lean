import Proximity.Expression.Mode
import Proximity.Expression.Parse
import Proximity.Query.Tree

/-!
# Compiling expressions

Phrase-aware compilation pairs what the left side offers with what the right side offers. Loose
compilation pairs the two terms next to the operator and keeps the others as optional clauses, a share
of which has to match.

* `Side` is what an operand offers: a fixed span, or candidates of which any may match.
* `pairings` lists the pairs of the candidates of two sides, the left one changing last.
* `minimumShouldMatch` is the rounded share of the clauses.
-/
namespace Proximity
set_option autoImplicit false

/-! ## Pairing sides -/

/-- What an operand offers: exactly one span, or the spans of several terms of which any may match. -/
inductive Side where
  | fixed (s : Span)
  | candidates (ss : List Span)

/-- The side of an operand. A phrase is one span, and so is a term that is alone. -/
def Operand.side (field : String) : Operand → Side
  | .phrase ts => .fixed (Span.phrase field ts)
  | .termSet [t] => .fixed (Span.ofTerm field t)
  | .termSet ts => .candidates (ts.map (Span.ofTerm field))

/-- Two spans at the distance and in the order of an operator. -/
def Operator.pair (op : Operator) (left right : Span) : Span :=
  .near [left, right] op.distance op.order.inOrder

/-- Every left span paired with every right span. -/
def Operator.pairings (op : Operator) (lefts rights : List Span) : List Span :=
  lefts.flatMap fun left => rights.map fun right => op.pair left right

/-- The span of an expression: a single pair if both sides are fixed, any of the pairs with a candidate
otherwise. -/
def Expression.span (field : String) (e : Expression) : Span :=
  let pair := e.operator.pair
  match e.left.side field, e.right.side field with
  | .fixed left, .fixed right => pair left right
  | .candidates lefts, .fixed right => .anyOf (lefts.map fun left => pair left right)
  | .fixed left, .candidates rights => .anyOf (rights.map fun right => pair left right)
  | .candidates lefts, .candidates rights => .anyOf (e.operator.pairings lefts rights)

/-! ## Optional terms around one pair -/

/-- The part of `count` clauses that `percent` percent are, rounded to the nearest number with halves
upward, at least one of some and never more than 32 bits hold. A percentage above one hundred counts
as one hundred. The words of 64 bits are wide enough for any number of clauses up to `9 * 10 ^ 16`. -/
def minimumShouldMatch (count : UInt64) (percent : UInt32) : UInt32 :=
  let share := (min percent 100).toUInt64
  let rounded := (count * share * 2 + 100) / 200
  let least := if rounded = 0 ∧ 0 < count ∧ 0 < share then 1 else rounded
  if least.toNat < UInt32.size then least.toUInt32 else UInt32.ofNat (UInt32.size - 1)

/-- Optional clauses for terms of a field. -/
def optionalTerms (field : String) (values : List String) : List Clause :=
  values.map fun v => .optional (.ofTerm field v)

/-- The clauses of an expression: the terms before the last left one, the pair of the two terms next to
the operator, and the terms after the first right one. There are none if a side has no terms. -/
def Expression.clauses? (field : String) (e : Expression) : Option (List Clause) :=
  match e.left.terms.getLast?, e.right.terms with
  | some last, first :: trailing =>
    let pair := e.operator.pair (Span.ofTerm field last) (Span.ofTerm field first)
    some (optionalTerms field e.left.terms.dropLast ++ .optional (.span pair)
      :: optionalTerms field trailing)
  | _, _ => none

/-! ## Compiling -/

/-- Compiles an expression in a mode, with a percentage for the minimum of matching clauses. -/
def Expression.compile (field : String) (e : Expression) (mode : Mode) (percent : UInt32) :
    Outcome Node :=
  match mode with
  | .phraseAware => .ok (.span (e.span field))
  | .looseTerms =>
    match e.clauses? field with
    | some clauses => .ok (.choice clauses (minimumShouldMatch (.ofNat clauses.length) percent))
    | none => .error (.malformed .emptyOperand none)

/-- Parses and compiles a proximity expression. -/
def compileProximity (field raw : String) (analyzer : Analyzer) (mode : Mode) (percent : UInt32) :
    Outcome Node := do
  let e ← Expression.parse field raw analyzer mode.recognizesPhrases
  e.compile field mode percent

end Proximity
