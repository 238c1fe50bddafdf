/-!
# Query trees

What a compiled expression asks of an index. A `Span` matches positions: a term, several spans near
each other, or any one of several spans. A `Node` is a whole query: a term, a span, a choice of
clauses with a minimum number of matches, or a term whose payload is checked. Only spans stand inside
spans, so no choice of clauses ever does.
-/
namespace Proximity
set_option autoImplicit false

/-- A term in a field. -/
structure Term where
  field : String
  value : String
  deriving DecidableEq, Repr

/-- A query on positions. -/
inductive Span where
  /-- An occurrence of a term. -/
  | term (t : Term)
  /-- The clauses, with at most `slop` positions between them, in the given order or in any. -/
  | near (clauses : List Span) (slop : UInt32) (inOrder : Bool)
  /-- Any one of the clauses. -/
  | anyOf (clauses : List Span)

mutual

/-- A query on documents. -/
inductive Node where
  /-- A term, wherever it occurs. -/
  | term (t : Term)
  /-- A query on positions. -/
  | span (s : Span)
  /-- The required clauses and at least `minimum` of the optional ones. -/
  | choice (clauses : List Clause) (minimum : UInt32)
  /-- A term that carries the given payload. -/
  | payload (t : Term) (octets : List UInt8)

/-- A part of a choice, required or optional. -/
inductive Clause where
  | mk (query : Node) (required : Bool)

end

namespace Clause

/-- The query of a clause. -/
def query : Clause → Node
  | mk q _ => q

/-- Whether a clause has to match. -/
def required : Clause → Bool
  | mk _ r => r

/-- A clause that may fail to match. -/
def optional (q : Node) : Clause := mk q false

end Clause

/-! ## What stands in a span -/

namespace Span

mutual

/-- The terms of a span from left to right. -/
def terms : Span → List Term
  | term t => [t]
  | near clauses _ _ => termsOf clauses
  | anyOf clauses => termsOf clauses

/-- The terms of some spans from left to right. -/
def termsOf : List Span → List Term
  | [] => []
  | s :: rest => s.terms ++ termsOf rest

end

mutual

/-- The field of a span: that of its first clause, where it has clauses. -/
def field? : Span → Option String
  | term t => some t.field
  | near clauses _ _ => firstField? clauses
  | anyOf clauses => firstField? clauses

/-- The field of the first of some spans. -/
def firstField? : List Span → Option String
  | [] => none
  | s :: _ => s.field?

end

/-! ## Spans on one field -/

/-- A term of a field as a span. -/
def ofTerm (field value : String) : Span :=
  term ⟨field, value⟩

/-- The terms of a phrase, one right after the other. -/
def phrase (field : String) (values : List String) : Span :=
  near (values.map (ofTerm field)) 0 true

end Span

/-- A term of a field, wherever it occurs. -/
def Node.ofTerm (field value : String) : Node :=
  .term ⟨field, value⟩

end Proximity
