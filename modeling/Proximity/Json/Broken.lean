import Proximity.Json.Reading
import Proximity.Json.Record

/-!
# Texts that break off

A tagged record is read from left to right, and its tag is checked as soon as it is met. A text that
breaks off behind a wrong tag is therefore refused for the tag, and a complete value with something
behind it for what is wrong with the value.
-/
namespace Proximity.Json
set_option autoImplicit false

/-- An opened array or object as far as its kind is known. -/
def Frame.opened : Frame → Value
  | .array _ => .array []
  | .object .. => .object []

/-- How far a text could be read, and the fault that ended it. -/
structure Break where
  state : State
  fault : Fault

namespace Break

/-- The value in front of the break: a complete one, or a number that the break ended. -/
def value? (b : Break) : Option Value :=
  match b.state.phase with
  | .complete v => some v
  | .number n =>
    if n.canEnd ∧ b.fault ≠ .invalidNumber ∧ b.fault ≠ .numberOutOfRange then
      some (.number n.toNumber)
    else none
  | _ => none

/-- The value of a document that is complete except for what follows it. -/
def document? (b : Break) : Option Value :=
  if b.state.frames.isEmpty then b.value? else none

/-- The value that has begun directly inside the outermost frame. -/
def begun? (b : Break) : Option Value :=
  match b.state.frames.dropLast.getLast? with
  | some frame => some frame.opened
  | none => b.value?

end Break

variable {α β : Type}

/-- The values that stand for the tag in front of a break. -/
def Tagged.tagsBefore (u : Tagged α) (b : Break) : List Value :=
  match b.state.frames.getLast? with
  | none => []
  | some (.array items) => items.reverse ++ b.begun?.toList
  | some (.object members key) =>
    let met := (members.reverse.filter fun m => m.1 = u.tag).map Prod.snd
    if key = some u.tag then
      if met.isEmpty then b.begun?.toList else met ++ [.null]
    else met

/-- The fault of a tag in front of a break: it names no variant, or it stands there twice. -/
def Tagged.faultBefore (u : Tagged α) (b : Break) : Option Fault :=
  match u.tagsBefore b with
  | [] => none
  | t :: more =>
    match variantOfTag .outermost u.variants t, b.state.frames.getLast?, more with
    | .error e, _, _ => some e
    | .ok _, some (.object ..), _ :: _ => some (.duplicateField u.tag)
    | .ok _, _, _ => none

/-- Reads a document that is a tagged record. -/
def Tagged.read (u : Tagged α) (decode : Value → Except Fault β) (text : String) :
    Except Fault β :=
  match Json.read text with
  | .ok v => decode v
  | .error e =>
    let b : Break := ⟨State.initial.progress .all text.toList, e⟩
    match b.document? with
    | some v => decode v >>= fun _ => .error e
    | none => .error ((u.faultBefore b).getD e)

end Proximity.Json
