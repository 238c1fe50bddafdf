import Proximity.Analysis.Standard
import Proximity.Request.Params

/-!
# Requests

A request is an expression with its parameters and, where another one than the default is meant, the
name of an analyzer.
-/
namespace Proximity
set_option autoImplicit false

/-- A request to compile an expression. -/
inductive Request where
  | proximity (expression : String) (params : ProximityParams) (analyzer : Option String)
  | capitalization (expression : String) (params : CapitalizationParams)
      (analyzer : Option String)
  deriving DecidableEq, Repr

namespace Request

/-- The name of the analyzer of a request. -/
def analyzerName : Request → String
  | proximity _ _ analyzer => analyzer.getD Analysis.defaultName
  | capitalization _ _ analyzer => analyzer.getD Analysis.defaultName

/-- Compiles a request with an analyzer that takes the place of the named one. -/
def compileWith (r : Request) (analyzer : Analyzer) : Outcome Node :=
  match r with
  | proximity expression params _ => params.compile expression analyzer
  | capitalization expression params _ => params.compile expression analyzer

/-- Compiles a request. -/
def compile (r : Request) : Outcome Node :=
  match Analysis.named? r.analyzerName with
  | some analyzer => r.compileWith analyzer
  | none => .error (.request (.unknownAnalyzer r.analyzerName))

end Request

end Proximity
