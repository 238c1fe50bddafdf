import Proximity.Json.Record
import Proximity.Json.Writer
import Proximity.Query.Tree

/-!
# Queries as documents

Queries are written as JSON objects with a tag: `type` for queries and `span` for spans. A span query
carries both tags in one object. Documents are read back with members in any order, or as arrays with
the tag first.

* `Node.toJson` and `Span.toJson` write, `Node.ofJson` and `Span.ofJson` read.
-/
namespace Proximity
set_option autoImplicit false
open Json

/-! ## Writing -/

/-- The members of a term. -/
def Term.members (t : Term) : List (String × Value) :=
  [("field", .string t.field), ("value", .string t.value)]

namespace Span

mutual

/-- The members of a span, the tag first. -/
def members : Span → List (String × Value)
  | term t => ("span", .string "term") :: t.members
  | near clauses slop inOrder =>
    [("span", .string "near"), ("clauses", .array (toJsons clauses)),
      ("slop", .natural slop.toNat), ("in_order", .bool inOrder)]
  | anyOf clauses => [("span", .string "or"), ("clauses", .array (toJsons clauses))]

/-- Some spans as objects. -/
def toJsons : List Span → List Value
  | [] => []
  | s :: rest => .object s.members :: toJsons rest

end

/-- A span as an object. -/
def toJson (s : Span) : Value :=
  .object s.members

end Span

mutual

/-- A query as an object. -/
def Node.toJson : Node → Value
  | .term t => .object (("type", .string "term") :: t.members)
  | .span s => .object (("type", .string "span") :: s.members)
  | .choice clauses minimum =>
    .object [("type", .string "boolean_or"), ("clauses", .array (Clause.toJsons clauses)),
      ("minimum_should_match", .natural minimum.toNat)]
  | .payload t octets =>
    .object [("type", .string "payload_checked_term"), ("term", .object t.members),
      ("payload", .array (octets.map fun b => .natural b.toNat))]

/-- A clause as an object. -/
def Clause.toJson : Clause → Value
  | .mk query required => .object [("query", query.toJson), ("required", .bool required)]

/-- Some clauses as objects. -/
def Clause.toJsons : List Clause → List Value
  | [] => []
  | c :: rest => c.toJson :: Clause.toJsons rest

end

/-! ## Reading -/

/-- The layout of a term. -/
def Term.layout : Layout := ⟨"struct Term", ["field", "value"]⟩

/-- Reads the fields of a term. -/
def Term.ofRecord (r : Record) : Except Fault Term :=
  let l := Term.layout
  (((r.field l "field" asString).both (r.field l "value" asString)).map
    fun (field, value) => ⟨field, value⟩).conclude (r.extras l l.surplus)

/-- Reads a term. -/
def Term.ofJson (v : Value) : Except Fault Term := do
  Term.ofRecord (← Record.ofValue Term.layout.title v)

namespace Span

/-- The kinds of spans. -/
inductive Kind where
  | term
  | near
  | anyOf
  deriving DecidableEq, Repr

/-- The tags of spans. -/
def union : Tagged Kind :=
  ⟨"SpanQuery", "span", [("term", .term), ("near", .near), ("or", .anyOf)]⟩

/-- The layout of a `near` span. -/
def nearLayout : Layout := ⟨"struct variant SpanQuery::Near", ["clauses", "slop", "in_order"]⟩

/-- The layout of an `or` span. -/
def anyOfLayout : Layout := ⟨"struct variant SpanQuery::Or", ["clauses"]⟩

/-- Reads the fields of a span of some kind; `inner` reads the spans inside it. -/
def ofFields (inner : Value → Except Fault Span) (kind : Kind) (r : Record) :
    Except Fault Span :=
  match kind with
  | .term => (Term.ofRecord r).map Span.term
  | .near =>
    let l := nearLayout
    (((r.field l "clauses" (asList inner)).both
        ((r.field l "slop" asUInt32).both (r.field l "in_order" asBool))).map
      fun (clauses, slop, inOrder) => Span.near clauses slop inOrder).conclude
        (r.extras l l.surplus)
  | .anyOf =>
    let l := anyOfLayout
    ((r.field l "clauses" (asList inner)).map Span.anyOf).conclude (r.extras l l.surplus)

/-- Reads a span inside another value, as deep as `depth` allows. -/
def ofInner : Nat → Value → Except Fault Span
  | 0, _ => .error .tooDeep
  | depth + 1, v => do
    let (kind, r) ← union.split .inside v
    ofFields (ofInner depth) kind r

/-- Reads a span. -/
def ofJson (v : Value) : Except Fault Span := do
  let (kind, r) ← union.split .outermost v
  ofFields (ofInner maxDepth) kind r

/-- Reads the span whose members or elements stand in a record. -/
def ofRecord (r : Record) : Except Fault Span :=
  ofInner maxDepth <| match r with
    | .members ms => .object ms
    | .elements vs => .array vs

end Span

namespace Node

/-- The kinds of queries. -/
inductive Kind where
  | term
  | span
  | choice
  | payload
  deriving DecidableEq, Repr

/-- The tags of queries. -/
def union : Tagged Kind :=
  ⟨"QueryNode", "type",
    [("term", .term), ("span", .span), ("boolean_or", .choice),
      ("payload_checked_term", .payload)]⟩

/-- The layout of a choice of clauses. -/
def choiceLayout : Layout :=
  ⟨"struct variant QueryNode::BooleanOr", ["clauses", "minimum_should_match"]⟩

/-- The layout of a clause. -/
def clauseLayout : Layout := ⟨"struct BooleanClause", ["query", "required"]⟩

/-- The layout of a term with a payload. -/
def payloadLayout : Layout :=
  ⟨"struct variant QueryNode::PayloadCheckedTerm", ["term", "payload"]⟩

/-- Reads a clause; `inner` reads the query inside it. -/
def clauseOfJson (inner : Value → Except Fault Node) (v : Value) : Except Fault Clause := do
  let l := clauseLayout
  let r ← Record.ofValue l.title v
  (((r.field l "query" inner).both (r.field l "required" asBool)).map
    fun (query, required) => Clause.mk query required).conclude (r.extras l l.surplus)

/-- Reads the fields of a query of some kind; `inner` reads the queries inside it. -/
def ofFields (inner : Value → Except Fault Node) (kind : Kind) (r : Record) :
    Except Fault Node :=
  match kind with
  | .term => (Term.ofRecord r).map Node.term
  | .span => (Span.ofRecord r).map Node.span
  | .choice =>
    let l := choiceLayout
    (((r.field l "clauses" (asList (clauseOfJson inner))).both
        (r.field l "minimum_should_match" asUInt32)).map
      fun (clauses, minimum) => Node.choice clauses minimum).conclude (r.extras l l.surplus)
  | .payload =>
    let l := payloadLayout
    (((r.field l "term" Term.ofJson).both (r.field l "payload" (asList asUInt8))).map
      fun (t, octets) => Node.payload t octets).conclude (r.extras l l.surplus)

/-- Reads a query inside another value, as deep as `depth` allows. -/
def ofInner : Nat → Value → Except Fault Node
  | 0, _ => .error .tooDeep
  | depth + 1, v => do
    let (kind, r) ← union.split .inside v
    ofFields (ofInner depth) kind r

/-- Reads a query. -/
def ofJson (v : Value) : Except Fault Node := do
  let (kind, r) ← union.split .outermost v
  ofFields (ofInner maxDepth) kind r

end Node

end Proximity
