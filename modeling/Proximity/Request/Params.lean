import Proximity.Capitalization.Expression
import Proximity.Expression.Compile
import Proximity.Request.Percent

/-!
# Parameters

What a request says besides its expression: the field that is searched and, for proximity expressions,
the percentage of clauses that have to match and the mode. A blank field is refused before anything
else.
-/
namespace Proximity
set_option autoImplicit false

/-- The parameters of a proximity expression. -/
structure ProximityParams where
  field : String
  minimum : Option String
  mode : Mode
  deriving DecidableEq, Repr

/-- The parameters of a capitalization expression. -/
structure CapitalizationParams where
  field : String
  deriving DecidableEq, Repr

/-- Refuses a field that is empty or blank. -/
def requireField (field : String) : Outcome Unit :=
  if (Text.trim field.toList).isEmpty then .error (.request .missingField) else .ok ()

namespace ProximityParams

/-- The parameters that only name a field. -/
def ofField (field : String) : ProximityParams :=
  ⟨field, none, .standard⟩

/-- The percentage of clauses that have to match. -/
def percent (p : ProximityParams) : Outcome UInt32 :=
  parsePercent p.minimum

/-- Compiles an expression. -/
def compile (p : ProximityParams) (raw : String) (analyzer : Analyzer) : Outcome Node := do
  requireField p.field
  let percent ← p.percent
  compileProximity p.field raw analyzer p.mode percent

end ProximityParams

/-- Compiles an expression. -/
def CapitalizationParams.compile (p : CapitalizationParams) (raw : String) (analyzer : Analyzer) :
    Outcome Node := do
  requireField p.field
  compileCapitalization p.field raw analyzer

end Proximity
