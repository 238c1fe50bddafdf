/-!
# Analyzers

An analyzer turns the text of an operand into the terms that stand for it in a field of the index, or
reports why it cannot.
-/
namespace Proximity
set_option autoImplicit false

/-- Why an analyzer could not analyze a text. -/
structure AnalysisError where
  field : String
  text : String
  reason : String
  deriving DecidableEq, Repr

/-- The wording of a failed analysis. -/
def AnalysisError.message (e : AnalysisError) : String :=
  "cannot analyze \"" ++ e.text ++ "\" for field " ++ e.field ++ ": " ++ e.reason

/-- The ordered terms of a text in a field. -/
abbrev Analyzer : Type :=
  (field text : String) → Except AnalysisError (List String)

end Proximity
