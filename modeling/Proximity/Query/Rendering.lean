import Proximity.Query.Document
import Proximity.Query.Outline

/-!
# Printed queries

A query is printed on one line, as an outline or as a JSON document. Only outlines have colours.
-/
namespace Proximity
set_option autoImplicit false

/-- How a query is printed. -/
inductive Format where
  | line
  | tree
  | json
  deriving DecidableEq, Repr

/-- The formats by their names. -/
def Format.names : List (String × Format) :=
  [("line", line), ("tree", tree), ("json", json)]

/-- The printed form of a query, which ends its last line. -/
def Node.render (n : Node) (format : Format) (colours : Bool) : String :=
  match format with
  | .line => n.line ++ "\n"
  | .tree => Text.paintedIf colours (n.outline 0)
  | .json => n.toJson.text ++ "\n"

end Proximity
