import Proximity.Json.Broken
import Proximity.Json.Name
import Proximity.Request.Basic

/-!
# Requests as documents

Requests and parameters are read from JSON. A request is an object with the tag `parser`, or an array
with that tag first; parameters are an object or an array without a tag. Members with unknown names are
passed over. All of a request is read before its members are looked at; of parameters only the known
members are.

* `Request.ofText`, `ProximityParams.ofText` and `CapitalizationParams.ofText` read texts.
* `Request.toJson` writes the object that `Request.ofJson` reads.
-/
namespace Proximity
set_option autoImplicit false
open Json

/-! ## Parameters -/

/-- Reads a mode that is not inside a tagged record. -/
def Mode.ofJson (v : Value) : Except Json.Fault Mode :=
  nameOutermost Mode.names v

/-- The layout of the parameters of a proximity expression. -/
def ProximityParams.layout : Layout := ⟨"struct ProximityParams", ["qf", "mm", "mode"]⟩

/-- Reads the parameters of a proximity expression. -/
def ProximityParams.ofJson (v : Value) : Except Json.Fault ProximityParams := do
  let l := layout
  let r ← Record.ofValue l.title v
  (((r.field l "qf" asString).both
      ((r.fieldOr l "mm" none asOptionalString).both
        (r.fieldOr l "mode" .standard Mode.ofJson))).map
    fun (field, minimum, mode) => ⟨field, minimum, mode⟩).conclude
      (r.extras l fun _ => .trailingCharacters)

/-- Reads the parameters of a proximity expression from the text of a document. -/
def ProximityParams.ofText (text : String) : Outcome ProximityParams :=
  documentOutcome (readMembers layout.fields text >>= ofJson)

/-- The layout of the parameters of a capitalization expression. -/
def CapitalizationParams.layout : Layout := ⟨"struct CapitalizationParams", ["qf"]⟩

/-- Reads the parameters of a capitalization expression. -/
def CapitalizationParams.ofJson (v : Value) : Except Json.Fault CapitalizationParams := do
  let l := layout
  let r ← Record.ofValue l.title v
  ((r.field l "qf" asString).map CapitalizationParams.mk).conclude
    (r.extras l fun _ => .trailingCharacters)

/-- Reads the parameters of a capitalization expression from the text of a document. -/
def CapitalizationParams.ofText (text : String) : Outcome CapitalizationParams :=
  documentOutcome (readMembers layout.fields text >>= ofJson)

/-! ## Requests -/

namespace Request

/-- The kinds of requests. -/
inductive Kind where
  | proximity
  | capitalization
  deriving DecidableEq, Repr

/-- The tags of requests. -/
def union : Tagged Kind :=
  ⟨"QueryRequest", "parser",
    [("proximity", .proximity), ("capitalization", .capitalization)]⟩

/-- The layout of a proximity request. -/
def proximityLayout : Layout :=
  ⟨"struct variant QueryRequest::Proximity", ["q", "qf", "mm", "mode", "analyzer"]⟩

/-- The layout of a capitalization request. -/
def capitalizationLayout : Layout :=
  ⟨"struct variant QueryRequest::Capitalization", ["q", "qf", "analyzer"]⟩

/-- Reads the fields of a request of some kind. -/
def ofFields (kind : Kind) (r : Record) : Except Json.Fault Request :=
  match kind with
  | .proximity =>
    let l := proximityLayout
    (((r.field l "q" asString).both
        ((r.field l "qf" asString).both
          ((r.fieldOr l "mm" none asOptionalString).both
            ((r.fieldOr l "mode" .standard (nameInside Mode.names)).both
              (r.fieldOr l "analyzer" none asOptionalString))))).map
      fun (q, field, minimum, mode, analyzer) =>
        Request.proximity q ⟨field, minimum, mode⟩ analyzer).conclude (r.extras l l.surplus)
  | .capitalization =>
    let l := capitalizationLayout
    (((r.field l "q" asString).both
        ((r.field l "qf" asString).both
          (r.fieldOr l "analyzer" none asOptionalString))).map
      fun (q, field, analyzer) => Request.capitalization q ⟨field⟩ analyzer).conclude
        (r.extras l l.surplus)

/-- Reads a request. -/
def ofJson (v : Value) : Except Json.Fault Request := do
  let (kind, r) ← union.split .outermost v
  ofFields kind r

/-- Reads a request from the text of a document. -/
def ofText (text : String) : Outcome Request :=
  documentOutcome (union.read ofJson text)

/-- A string or null. -/
def optionalString : Option String → Value
  | some s => .string s
  | none => .null

/-- A request as an object with all of its members. -/
def toJson : Request → Value
  | proximity q params analyzer =>
    .object [("parser", .string "proximity"), ("q", .string q), ("qf", .string params.field),
      ("mm", optionalString params.minimum), ("mode", .string params.mode.name),
      ("analyzer", optionalString analyzer)]
  | capitalization q params analyzer =>
    .object [("parser", .string "capitalization"), ("q", .string q), ("qf", .string params.field),
      ("analyzer", optionalString analyzer)]

end Request

/-- The parameters of a proximity expression as an object, without a minimum where there is none. -/
def ProximityParams.toJson (p : ProximityParams) : Value :=
  .object (("qf", .string p.field)
    :: (p.minimum.toList.map fun m => ("mm", .string m)) ++ [("mode", .string p.mode.name)])

/-- The parameters of a capitalization expression as an object. -/
def CapitalizationParams.toJson (p : CapitalizationParams) : Value :=
  .object [("qf", .string p.field)]

end Proximity
