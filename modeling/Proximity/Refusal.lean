import Proximity.Analysis.Analyzer
import Proximity.Json.Fault

/-!
# Why an expression or a request is refused

A refusal has one of three kinds of causes: the expression is malformed, an analyzer failed, or the
request around the expression is wrong. A malformed expression names the part of the input that is at
fault, where there is one.
-/
namespace Proximity
set_option autoImplicit false

/-- What is wrong with an expression or a parameter. -/
inductive Mistake where
  | missingOperator
  | invalidOperator
  | distanceOutOfRange
  | emptyOperand
  | invalidCapitalization
  | noPayload
  | severalTerms
  | unknownMode
  | invalidMinimum
  | minimumOutOfRange
  /-- A mistake that the caller words. -/
  | stated (message : String)
  deriving DecidableEq, Repr

/-- How a proximity expression is written. -/
def proximityUsage : String :=
  "usage: one or more terms [w|n]<number> one or more terms, e.g. hello w10 world"

/-- How a capitalization expression is written. -/
def capitalizationUsage : String :=
  "usage: [firstcap|allcap|cap](term), e.g. firstcap(trump)"

/-- The wording of a mistake. -/
def Mistake.message : Mistake → String
  | missingOperator => "missing proximity operator; " ++ proximityUsage
  | invalidOperator => "invalid operator syntax; " ++ proximityUsage
  | distanceOutOfRange => "proximity distance out of range"
  | emptyOperand => "empty operand"
  | invalidCapitalization => "invalid syntax; " ++ capitalizationUsage
  | noPayload => "no payload is associated with the operator"
  | severalTerms => "expected a single term"
  | unknownMode => "unknown compile mode"
  | invalidMinimum => "invalid mm format"
  | minimumOutOfRange => "mm must be between 0 and 100"
  | stated message => message

/-- What is wrong with a request apart from its expression. -/
inductive RequestFault where
  | unknownAnalyzer (name : String)
  | missingField
  | document (fault : Json.Fault)
  /-- A fault that the caller words. -/
  | stated (message : String)
  deriving DecidableEq, Repr

/-- The wording of a request fault. -/
def RequestFault.message : RequestFault → String
  | unknownAnalyzer name => "unknown analyzer \"" ++ name ++ "\""
  | missingField => "missing query field (qf)"
  | document fault => fault.message
  | stated message => message

/-- Why an expression or a request is refused. -/
inductive Refusal where
  | malformed (mistake : Mistake) (fragment : Option String)
  | analysis (error : AnalysisError)
  | request (fault : RequestFault)
  deriving DecidableEq, Repr

namespace Refusal

/-- A mistake in a part of the input. -/
def malformedAt (mistake : Mistake) (fragment : String) : Refusal :=
  malformed mistake (some fragment)

/-- The wording of a refusal. -/
def message : Refusal → String
  | malformed mistake none => mistake.message
  | malformed mistake (some fragment) => mistake.message ++ ": \"" ++ fragment ++ "\""
  | analysis error => "analysis failed: " ++ error.message
  | request fault => "invalid request: " ++ fault.message

/-- The part of the input that is at fault. -/
def fragment? : Refusal → Option String
  | malformed _ fragment => fragment
  | analysis error => some error.text
  | request _ => none

/-- Whether the grammar refused the input. -/
def isMalformed : Refusal → Bool
  | malformed .. => true
  | _ => false

end Refusal

/-- The result of parsing or compiling: a value or a refusal. -/
abbrev Outcome (α : Type) : Type := Except Refusal α

/-- The outcome of reading a document. -/
def documentOutcome {α : Type} : Except Json.Fault α → Outcome α
  | .ok a => .ok a
  | .error e => .error (.request (.document e))

end Proximity
