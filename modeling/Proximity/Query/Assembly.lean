import Proximity.Query.Tree

/-!
# Assembling queries

A query can be put together step by step. An `Assembly` holds the spans that are not used yet, the last
one first, and the clauses collected so far. A step that cannot be taken changes nothing.
-/
namespace Proximity
set_option autoImplicit false

/-- Spans and clauses on their way to a query on some field. -/
structure Assembly where
  field : String
  spans : List Span
  clauses : List Clause

/-- One step of an assembly. -/
inductive AssemblyStep where
  /-- Puts down the span of a term. -/
  | term (value : String)
  /-- Puts down the span of a phrase. -/
  | phrase (values : List String)
  /-- Replaces the last `count` spans by one that has them near each other. -/
  | near (count : Nat) (slop : UInt32) (inOrder : Bool)
  /-- Replaces the last `count` spans by one that matches any of them. -/
  | anyOf (count : Nat)
  /-- Adds a term as a clause. -/
  | addTerm (value : String) (required : Bool)
  /-- Adds the last span as an optional clause. -/
  | addSpan
  /-- Adds a required term with a payload. -/
  | addPayload (t : Term) (octets : List UInt8)
  /-- Makes all clauses one choice, which becomes the only clause. -/
  | finish (minimum : UInt32)

/-- Why a step cannot be taken. -/
inductive AssemblyFault where
  | stackTooShort
  | emptyStack
  deriving DecidableEq, Repr

namespace Assembly

/-- Nothing assembled yet. -/
def start (field : String) : Assembly := ⟨field, [], []⟩

/-- Replaces the last spans by their combination. -/
def combine (a : Assembly) (count : Nat) (f : List Span → Span) :
    Except AssemblyFault Assembly :=
  if count ≤ a.spans.length then
    .ok { a with spans := f (a.spans.take count).reverse :: a.spans.drop count }
  else .error .stackTooShort

/-- Adds a clause behind the others. -/
def add (a : Assembly) (c : Clause) : Assembly :=
  { a with clauses := a.clauses ++ [c] }

/-- The choice of all clauses. -/
def choice (a : Assembly) (minimum : UInt32) : Node :=
  .choice a.clauses minimum

/-- Takes one step. -/
def step (a : Assembly) : AssemblyStep → Except AssemblyFault Assembly
  | .term value => .ok { a with spans := Span.ofTerm a.field value :: a.spans }
  | .phrase values => .ok { a with spans := Span.phrase a.field values :: a.spans }
  | .near count slop inOrder => a.combine count fun ss => .near ss slop inOrder
  | .anyOf count => a.combine count .anyOf
  | .addTerm value required => .ok (a.add (.mk (.ofTerm a.field value) required))
  | .addSpan =>
    match a.spans with
    | [] => .error .emptyStack
    | s :: rest => .ok ({ a with spans := rest }.add (.optional (.span s)))
  | .addPayload t octets => .ok (a.add (.mk (.payload t octets) true))
  | .finish minimum => .ok { a with clauses := [.optional (a.choice minimum)] }

end Assembly

end Proximity
