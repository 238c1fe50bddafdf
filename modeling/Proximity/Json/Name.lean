import Proximity.Json.Record

/-!
# Names in documents

One of a fixed list of names is written as a string, or as an object with the name as its only key and
null as its value. What else may stand in its place is told apart by where it stands: a document is
refused as soon as it goes on in an impossible way, while a value inside a record is looked at as a
whole.
-/
namespace Proximity.Json
set_option autoImplicit false

variable {α : Type}

/-- Reads a name that is not inside a tagged record. -/
def nameOutermost (names : List (String × α)) : Value → Except Fault α
  | .string s => variantNamed names s
  | .object ((key, v) :: more) => do
    let a ← variantNamed names key
    match v with
    | .null => if more.isEmpty then return a else throw .expectedValue
    | _ => throw (.wrongType v.found "unit")
  | _ => .error .expectedValue

/-- Reads a name inside a tagged record. An empty object counts as null there. -/
def nameInside (names : List (String × α)) : Value → Except Fault α
  | .string s => variantNamed names s
  | .object [(key, v)] => do
    let a ← variantNamed names key
    match v with
    | .null | .object [] => return a
    | _ => throw (.wrongType v.found "unit")
  | .object _ => .error (.wrongValue .object "map with a single key")
  | v => .error (.wrongType v.found "string or map")

end Proximity.Json
