import Proximity.Capitalization.Class
import Proximity.Json.Name

/-!
# Capitalization classes in documents
-/
namespace Proximity
set_option autoImplicit false

namespace Capitalization

/-- The names of the classes in documents. -/
def names : List (String × Capitalization) :=
  [("allcap", allCap), ("firstcap", firstCap), ("cap", cap)]

/-- Reads a class. -/
def ofJson (v : Json.Value) : Except Json.Fault Capitalization :=
  Json.nameOutermost names v

end Capitalization

end Proximity
