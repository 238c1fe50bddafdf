import Proximity.Json.Fault

/-!
# Reading records

A record is written as an object with named members or as an array with its fields in the order of
their declaration. Unknown members are passed over. A record can have several faults at once: a
wrong field, a repeated one, one too many, one missing. Each has a position, and the first position
in the text decides which one is reported, with missing fields after everything that is there.

* `Record.field` and `Record.fieldOr` read one field as a `Partial` result.
* `Partial.conclude` gives the value of a record without faults, or its first fault.
* `Tagged.split` takes the tag out of a tagged record.
-/
namespace Proximity.Json
set_option autoImplicit false

/-! ## Partial results -/

/-- What has been read of a record: the faults met with their positions, and the value where there is
no fault. -/
structure Partial (α : Type) where
  faults : List (Nat × Fault)
  value : Option α

namespace Partial

variable {α β : Type}

/-- A value without faults. -/
def ok (a : α) : Partial α := ⟨[], some a⟩

/-- A fault at a position. -/
def fault (position : Nat) (e : Fault) : Partial α := ⟨[(position, e)], none⟩

/-- A function applied to what has been read of its argument. -/
def map (f : α → β) (p : Partial α) : Partial β := ⟨p.faults, p.value.map f⟩

/-- Two parts of a record read one after the other. -/
def both (p : Partial α) (q : Partial β) : Partial (α × β) :=
  ⟨p.faults ++ q.faults, do return (← p.value, ← q.value)⟩

/-- The fault at the least position, the earlier one where two positions are equal. -/
def firstFault : List (Nat × Fault) → Option (Nat × Fault)
  | [] => none
  | x :: xs =>
    match firstFault xs with
    | none => some x
    | some y => if y.1 < x.1 then some y else some x

/-- The value of a record without faults, or the first of its faults. -/
def conclude (p : Partial α) (others : List (Nat × Fault)) : Except Fault α :=
  match firstFault (p.faults ++ others), p.value with
  | some (_, e), _ => .error e
  | none, some a => .ok a
  | none, none => .error .expectedValue

end Partial

/-! ## Records and their fields -/

/-- The two written forms of a record. -/
inductive Record where
  | members (ms : List (String × Value))
  | elements (vs : List Value)

/-- What a record is called in messages, and the names of its fields in the order of declaration. -/
structure Layout where
  title : String
  fields : List String

/-- A count of elements in words. -/
def elementCount (n : Nat) : String :=
  if n = 1 then "1 element" else toString n ++ " elements"

/-- What a record with too few elements should have been. -/
def Layout.expectation (l : Layout) : String :=
  l.title ++ " with " ++ elementCount l.fields.length

/-- The first member with a name, and its position. -/
def lookup (name : String) : List (String × Value) → Nat → Option (Nat × Value)
  | [], _ => none
  | (k, v) :: ms, i => if k = name then some (i, v) else lookup name ms (i + 1)

/-- Members with a known name that stands before them already, by position. -/
def repeated (known : List String) (seen : List String) :
    List (String × Value) → Nat → List (Nat × Fault)
  | [], _ => []
  | (k, _) :: ms, i =>
    if k ∈ known then
      if k ∈ seen then (i, .duplicateField k) :: repeated known seen ms (i + 1)
      else repeated known (k :: seen) ms (i + 1)
    else repeated known seen ms (i + 1)

namespace Record

/-- A value as a record. -/
def ofValue (expected : String) : Value → Except Fault Record
  | .object ms => .ok (.members ms)
  | .array vs => .ok (.elements vs)
  | v => .error (.wrongType v.found expected)

/-- The value of a field and its position. -/
def find (r : Record) (l : Layout) (name : String) : Option (Nat × Value) :=
  match r with
  | .members ms => lookup name ms 0
  | .elements vs => (vs[l.fields.idxOf name]?).map fun v => (l.fields.idxOf name, v)

/-- The fault of a field that is not there, behind everything that is. -/
def absence (r : Record) (l : Layout) (name : String) : Nat × Fault :=
  match r with
  | .members ms => (ms.length + l.fields.idxOf name, .missingField name)
  | .elements vs => (vs.length + l.fields.idxOf name, .wrongLength vs.length l.expectation)

variable {α : Type}

/-- Reads a field that has to be there. -/
def field (r : Record) (l : Layout) (name : String) (decode : Value → Except Fault α) :
    Partial α :=
  match r.find l name with
  | some (i, v) =>
    match decode v with
    | .ok a => .ok a
    | .error e => .fault i e
  | none => ⟨[r.absence l name], none⟩

/-- Reads a field that may be left out. -/
def fieldOr (r : Record) (l : Layout) (name : String) (default : α)
    (decode : Value → Except Fault α) : Partial α :=
  match r.find l name with
  | some (i, v) =>
    match decode v with
    | .ok a => .ok a
    | .error e => .fault i e
  | none => .ok default

/-- The faults that do not belong to one field: repeated members, and elements without a field,
which `surplus` words. -/
def extras (r : Record) (l : Layout) (surplus : Nat → Fault) : List (Nat × Fault) :=
  match r with
  | .members ms => repeated l.fields [] ms 0
  | .elements vs => if l.fields.length < vs.length then [(l.fields.length, surplus vs.length)] else []

end Record

/-- The fault of a record with too many elements. -/
def Layout.surplus (l : Layout) (n : Nat) : Fault :=
  .wrongLength n (elementCount l.fields.length ++ " in sequence")

/-! ## Plain fields -/

/-- A string. -/
def asString : Value → Except Fault String
  | .string s => .ok s
  | v => .error (.wrongType v.found "a string")

/-- A string or null. -/
def asOptionalString : Value → Except Fault (Option String)
  | .null => .ok none
  | v => (asString v).map some

/-- A truth value. -/
def asBool : Value → Except Fault Bool
  | .bool b => .ok b
  | v => .error (.wrongType v.found "a boolean")

/-- An integer from zero to below `limit`. -/
def asNatural (limit : Nat) (expected : String) : Value → Except Fault Nat
  | .number (.integer i) =>
    if 0 ≤ i ∧ i < limit then .ok i.toNat
    else .error (.wrongValue (.number (.integer i)) expected)
  | v => .error (.wrongType v.found expected)

/-- An integer of 32 bits without sign. -/
def asUInt32 (v : Value) : Except Fault UInt32 :=
  (asNatural UInt32.size "u32" v).map UInt32.ofNat

/-- An octet. -/
def asUInt8 (v : Value) : Except Fault UInt8 :=
  (asNatural UInt8.size "u8" v).map UInt8.ofNat

/-- An array whose items are read one by one. -/
def asList {α : Type} (decode : Value → Except Fault α) : Value → Except Fault (List α)
  | .array vs => vs.mapM decode
  | v => .error (.wrongType v.found "a sequence")

/-! ## Tags -/

/-- Where a value stands: at the outermost level of a document or inside another value. Inside a
value a variant may also be given by its index. -/
inductive Level where
  | outermost
  | inside
  deriving DecidableEq, Repr

/-- The variant with a name. -/
def variantNamed {α : Type} (variants : List (String × α)) (name : String) : Except Fault α :=
  match variants.lookup name with
  | some a => .ok a
  | none => .error (.unknownVariant name (variants.map Prod.fst))

/-- The variant that a tag names. -/
def variantOfTag {α : Type} (level : Level) (variants : List (String × α)) :
    Value → Except Fault α
  | .string s => variantNamed variants s
  | .number (.integer i) =>
    if level = .inside ∧ 0 ≤ i then
      match variants[i.toNat]? with
      | some (_, a) => .ok a
      | none =>
        .error (.wrongValue (.number (.integer i))
          ("variant index 0 <= i < " ++ toString variants.length))
    else .error (.wrongType (.number (.integer i)) "variant identifier")
  | v => .error (.wrongType v.found "variant identifier")

/-- A union of records told apart by a tag. -/
structure Tagged (α : Type) where
  name : String
  tag : String
  variants : List (String × α)

/-- Takes the tag out of a tagged record: the variant it names, and the rest of the record. -/
def Tagged.split {α : Type} (u : Tagged α) (level : Level) : Value → Except Fault (α × Record)
  | .object ms =>
    match ms.filter fun m => m.1 = u.tag with
    | [] => .error (.missingField u.tag)
    | t :: more => do
      let a ← variantOfTag level u.variants t.2
      if more.isEmpty then return (a, .members (ms.filter fun m => m.1 ≠ u.tag))
      else throw (.duplicateField u.tag)
  | .array [] => .error (.missingField u.tag)
  | .array (t :: vs) => do return (← variantOfTag level u.variants t, .elements vs)
  | v => .error (.wrongType v.found ("internally tagged enum " ++ u.name))

end Proximity.Json
