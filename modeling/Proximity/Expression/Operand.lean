import Proximity.Refusal
import Proximity.Text.Blank

/-!
# Operands

A side of an expression is a phrase, whose terms follow each other, or a set of terms that stand each
on their own. Text between double quotes is a phrase where phrases are recognized.
-/
namespace Proximity
set_option autoImplicit false

/-- One analyzed side of an expression. -/
inductive Operand where
  | phrase (terms : List String)
  | termSet (terms : List String)
  deriving DecidableEq, Repr

namespace Operand

/-- The terms of an operand. -/
def terms : Operand → List String
  | phrase ts => ts
  | termSet ts => ts

/-- Whether an operand is a phrase. -/
def isPhrase : Operand → Bool
  | phrase _ => true
  | termSet _ => false

end Operand

/-- The text between two double quotes that stand at its ends. -/
def unquoted? (text : List Char) : Option (List Char) :=
  match text with
  | '"' :: rest => if rest.getLast? = some '"' then some rest.dropLast else none
  | _ => none

/-- The text between the quotes of a side, if it is quoted and phrases are recognized. -/
def phraseText? (phrases : Bool) (side : List Char) : Option (List Char) :=
  if phrases then unquoted? side else none

/-- The text of a side that is handed to the analyzer. -/
def analyzedText (phrases : Bool) (text : String) : String :=
  let side := Text.trim text.toList
  String.ofList ((phraseText? phrases side).getD side)

/-- Analyzes one side of an expression. With `phrases`, quoted text is a phrase; otherwise the quotes
are left to the analyzer. A side without terms is refused. -/
def Operand.classify (field text : String) (analyzer : Analyzer) (phrases : Bool) :
    Outcome Operand :=
  let side := Text.trim text.toList
  match analyzer field (analyzedText phrases text) with
  | .error e => .error (.analysis e)
  | .ok [] => .error (.malformedAt .emptyOperand (String.ofList side))
  | .ok ts => .ok (if (phraseText? phrases side).isSome then .phrase ts else .termSet ts)

end Proximity
