import Proximity.Query.Tree
import Proximity.Text.Utf8

/-!
# Queries on one line

The compact form of a query, such as `(title:brown spanNear([title:fox, title:dog], 4, true))~2`.
-/
namespace Proximity
set_option autoImplicit false

/-- A field and a value with a colon between them. -/
def Term.line (t : Term) : String :=
  t.field ++ ":" ++ t.value

/-- A truth value in words. -/
def boolText (b : Bool) : String :=
  if b then "true" else "false"

namespace Span

mutual

/-- The compact form of a span. -/
def line : Span → String
  | term t => t.line
  | near clauses slop inOrder =>
    "spanNear([" ++ ", ".intercalate (lines clauses) ++ "], " ++ toString slop.toNat ++ ", "
      ++ boolText inOrder ++ ")"
  | anyOf clauses => "spanOr([" ++ ", ".intercalate (lines clauses) ++ "])"

/-- The compact forms of some spans. -/
def lines : List Span → List String
  | [] => []
  | s :: rest => s.line :: lines rest

end

end Span

mutual

/-- The compact form of a query. A minimum other than zero is written after the clauses. -/
def Node.line : Node → String
  | .term t => t.line
  | .span s => s.line
  | .choice clauses minimum =>
    if minimum = 0 then " ".intercalate (Clause.lines clauses)
    else "(" ++ " ".intercalate (Clause.lines clauses) ++ ")~" ++ toString minimum.toNat
  | .payload t octets =>
    "spanPayCheck(" ++ t.line ++ ", payloadRef: " ++ Text.decodeLossy octets ++ ")"

/-- The compact form of a clause, with a plus sign if it is required. -/
def Clause.line : Clause → String
  | .mk query required => (if required then "+" else "") ++ query.line

/-- The compact forms of some clauses. -/
def Clause.lines : List Clause → List String
  | [] => []
  | c :: rest => c.line :: Clause.lines rest

end

end Proximity
