import Proximity.Capitalization.Class
import Proximity.Query.Line
import Proximity.Text.Styled

/-!
# Queries as outlines

The form of a query in which every part has a line of its own, two blanks deeper than the part around
it. Labels say what a part is, in a colour for each kind of part.
-/
namespace Proximity
set_option autoImplicit false
open Text

/-- The blanks in front of a line at a depth. -/
def indent (depth : Nat) : Piece :=
  .ofText (String.ofList (List.replicate (2 * depth) ' '))

namespace Span

mutual

/-- The lines of a span whose first line is already indented. -/
def outline (depth : Nat) : Span → List Piece
  | term t => [.label "span" .cyan, .ofText (" " ++ t.line ++ "\n")]
  | near clauses slop inOrder =>
    .label "near" .blue
      :: .ofText (" slop=" ++ toString slop.toNat ++ " "
          ++ (if inOrder then "ordered" else "unordered") ++ "\n")
      :: outlines (depth + 1) clauses
  | anyOf clauses =>
    .label "span-or" .magenta
      :: .ofText (" (" ++ toString clauses.length ++ " clauses)\n")
      :: outlines (depth + 1) clauses

/-- The indented lines of some spans. -/
def outlines (depth : Nat) : List Span → List Piece
  | [] => []
  | s :: rest => indent depth :: s.outline depth ++ outlines depth rest

end

end Span

/-- The keyword of the class that a payload names by its first octet. -/
def payloadKeyword (octets : List UInt8) : String :=
  match octets.head?.bind Capitalization.ofCode? with
  | some c => c.keyword
  | none => "?"

mutual

/-- The indented lines of a query. -/
def Node.outline (depth : Nat) : Node → List Piece
  | .term t => [indent depth, .label "term" .green, .ofText (" " ++ t.line ++ "\n")]
  | .span s => indent depth :: s.outline depth
  | .choice clauses minimum =>
    indent depth
      :: .label "or" .magenta
      :: .ofText (" mm=" ++ toString minimum.toNat ++ "\n")
      :: Clause.outlines (depth + 1) clauses
  | .payload t octets =>
    [indent depth, .label "payload" .yellow,
      .ofText (" " ++ t.line ++ " = " ++ Text.decodeLossy octets ++ " ("
        ++ payloadKeyword octets ++ ")\n")]

/-- The indented lines of a clause; a required one stands below a line that says so. -/
def Clause.outline (depth : Nat) : Clause → List Piece
  | .mk query true =>
    indent depth :: .label "must" .red :: .ofText "\n" :: query.outline (depth + 1)
  | .mk query false => query.outline depth

/-- The indented lines of some clauses. -/
def Clause.outlines (depth : Nat) : List Clause → List Piece
  | [] => []
  | c :: rest => c.outline depth ++ Clause.outlines depth rest

end

end Proximity
