import Proximity.Json.Fault
import Proximity.Json.Numeral
import Proximity.Text.Utf8

/-!
# Reading JSON

A text is read character by character. `State` holds the arrays and objects that are open and what
has to come next; `State.step` takes up one character, and `State.finish` closes the text. Reading a
text is a fold of `step`, so that reading two texts one after the other is reading their
concatenation.

A `Scope` says which part of a document is wanted. What is passed over has to be well formed, but its
arrays and objects may be nested to any depth, its numbers may be of any size, and in its strings one
half of an escaped pair may stand alone.

* `read` gives the value of a whole text, `readMembers` the value of a text in which only some members
  of the outermost object are wanted.
* `State.progress` gives the state up to which a text can be read.
-/
namespace Proximity.Json
set_option autoImplicit false

/-- An array or object that is open. Items and members stand in reverse order; `key` is the key of
the member that is being read. -/
inductive Frame where
  | array (items : List Value)
  | object (members : List (String × Value)) (key : Option String)

/-- A string under way: its characters in reverse order, and whether it is a key. -/
structure Quote where
  isKey : Bool
  chars : List Char

/-- What has to come next. -/
inductive Phase where
  /-- A value. -/
  | value
  /-- The first item of an array, or its end. -/
  | firstItem
  /-- An item after a comma. -/
  | furtherItem
  /-- The first key of an object, or its end. -/
  | firstKey
  /-- A key after a comma. -/
  | furtherKey
  /-- The colon after a key. -/
  | colon
  /-- A comma after an item, or the end of the array. -/
  | afterItem
  /-- A comma after a member, or the end of the object. -/
  | afterMember
  /-- Nothing: the value of the text is complete. -/
  | complete (v : Value)
  /-- The rest of a literal name. -/
  | literal (rest : List Char) (v : Value)
  /-- More of a number, or its end. -/
  | number (n : Numeral)
  /-- More of a string, or its end. -/
  | string (q : Quote)
  /-- The character after a backslash. -/
  | escape (q : Quote)
  /-- Hexadecimal digits of an escaped unit: the value so far, the number of digits still owed, and
  the leading surrogate before it, if there is one. -/
  | hex (q : Quote) (high : Option Nat) (unit owed : Nat)
  /-- The backslash of the unit after a leading surrogate. -/
  | lowBackslash (q : Quote) (high : Nat)
  /-- The letter of the unit after a leading surrogate. -/
  | lowLetter (q : Quote) (high : Nat)
  /-- The remaining octets of a unit that has a wrong digit. -/
  | wrongHex (owed : Nat)

/-- The state of a text that has been read up to some point, the innermost open frame first. -/
structure State where
  frames : List Frame
  phase : Phase

/-- The part of a document that is wanted: all of it, or the members of the outermost object that have
one of some names. -/
inductive Scope where
  | all
  | members (names : List String)
  deriving DecidableEq, Repr

/-- Whether what is read inside some frames is passed over. -/
def Scope.passesOver (scope : Scope) (frames : List Frame) : Bool :=
  match scope, frames.getLast? with
  | .members names, some (.object _ (some key)) => !names.contains key
  | _, _ => false

/-- Blank space between the parts of a document. -/
def isSpace (c : Char) : Bool :=
  c = ' ' || c = '\t' || c = '\n' || c = '\r'

/-- The value of a hexadecimal digit. -/
def hexValue? (c : Char) : Option Nat :=
  if '0' ≤ c ∧ c ≤ '9' then some (c.toNat - '0'.toNat)
  else if 'a' ≤ c ∧ c ≤ 'f' then some (c.toNat - 'a'.toNat + 10)
  else if 'A' ≤ c ∧ c ≤ 'F' then some (c.toNat - 'A'.toNat + 10)
  else none

/-- The character that a backslash and a letter stand for. -/
def escapedLetter? (c : Char) : Option Char :=
  match c with
  | '"' => some '"'
  | '\\' => some '\\'
  | '/' => some '/'
  | 'b' => some '\x08'
  | 'f' => some '\x0c'
  | 'n' => some '\n'
  | 'r' => some '\r'
  | 't' => some '\t'
  | _ => none

/-- The string with one more character. -/
def Quote.push (q : Quote) (c : Char) : Quote :=
  { q with chars := c :: q.chars }

namespace State

/-- The state before a document. -/
def initial : State := ⟨[], .value⟩

/-- Hands a complete value to the innermost open frame. -/
def deliver (frames : List Frame) (v : Value) : State :=
  match frames with
  | [] => ⟨[], .complete v⟩
  | .array items :: outer => ⟨.array (v :: items) :: outer, .afterItem⟩
  | .object members key :: outer =>
    ⟨.object ((key.getD "", v) :: members) none :: outer, .afterMember⟩

/-- Closes the innermost frame. -/
def close (frames : List Frame) : State :=
  match frames with
  | [] => ⟨[], .value⟩
  | .array items :: outer => deliver outer (.array items.reverse)
  | .object members _ :: outer => deliver outer (.object members.reverse)

/-- Opens a frame unless too many are open. -/
def enter (scope : Scope) (frames : List Frame) (frame : Frame) (phase : Phase) :
    Except Fault State :=
  if frames.length < maxDepth || scope.passesOver frames then .ok ⟨frame :: frames, phase⟩
  else .error .tooDeep

/-- The first character of a value. -/
def startValue (scope : Scope) (frames : List Frame) (c : Char) : Except Fault State :=
  match c with
  | 'n' => .ok ⟨frames, .literal ['u', 'l', 'l'] .null⟩
  | 't' => .ok ⟨frames, .literal ['r', 'u', 'e'] (.bool true)⟩
  | 'f' => .ok ⟨frames, .literal ['a', 'l', 's', 'e'] (.bool false)⟩
  | '-' => .ok ⟨frames, .number .minus⟩
  | '"' => .ok ⟨frames, .string ⟨false, []⟩⟩
  | '[' => enter scope frames (.array []) .firstItem
  | '\x7b' => enter scope frames (.object [] none) .firstKey
  | _ => if c.isDigit then .ok ⟨frames, .number (.ofDigit c)⟩ else .error .expectedValue

/-- The end of a string: a key waits for its colon, any other string is a value. -/
def endString (frames : List Frame) (q : Quote) : State :=
  let s := String.ofList q.chars.reverse
  if q.isKey then
    match frames with
    | .object members _ :: outer => ⟨.object members (some s) :: outer, .colon⟩
    | _ => ⟨frames, .colon⟩
  else deliver frames (.string s)

/-- The end of a number. -/
def endNumber (scope : Scope) (frames : List Frame) (n : Numeral) : Except Fault State :=
  match n.toNumber with
  | .integer i => .ok (deliver frames (.number (.integer i)))
  | .decimal d =>
    if d.isFinite || scope.passesOver frames then .ok (deliver frames (.number (.decimal d)))
    else .error .numberOutOfRange

/-- A string that ends in one half of a pair whose other half is missing. -/
def halfAlone (scope : Scope) (frames : List Frame) (q : Quote) (e : Fault) : Except Fault Quote :=
  if scope.passesOver frames then .ok (q.push Text.replacement) else .error e

/-- A complete unit of an escape that does not follow the first half of a pair: it is a character or
such a first half. -/
def endUnit (scope : Scope) (frames : List Frame) (q : Quote) (unit : Nat) : Except Fault Phase :=
  if 0xDC00 ≤ unit ∧ unit ≤ 0xDFFF then
    (halfAlone scope frames q .loneSurrogate).map Phase.string
  else if 0xD800 ≤ unit ∧ unit ≤ 0xDBFF then .ok (.lowBackslash q unit)
  else .ok (.string (q.push (Char.ofNat unit)))

/-- A complete unit of an escape after the first half of a pair. -/
def endPair (scope : Scope) (frames : List Frame) (q : Quote) (high unit : Nat) :
    Except Fault Phase :=
  if 0xDC00 ≤ unit ∧ unit ≤ 0xDFFF then
    .ok (.string (q.push (Char.ofNat (0x10000 + (high - 0xD800) * 0x400 + (unit - 0xDC00)))))
  else do endUnit scope frames (← halfAlone scope frames q .loneSurrogate) unit

/-- A character of a string. -/
def stringStep (frames : List Frame) (q : Quote) (c : Char) : Except Fault State :=
  if c = '"' then .ok (endString frames q)
  else if c = '\\' then .ok ⟨frames, .escape q⟩
  else if c < ' ' then .error .controlCharacter
  else .ok ⟨frames, .string (q.push c)⟩

/-- The character after a backslash. -/
def escapeStep (frames : List Frame) (q : Quote) (c : Char) : Except Fault State :=
  match escapedLetter? c with
  | some d => .ok ⟨frames, .string (q.push d)⟩
  | none => if c = 'u' then .ok ⟨frames, .hex q none 0 4⟩ else .error .invalidEscape

/-- The step after a value that is complete within its frame. -/
def settle (s : State) (c : Char) : Except Fault State :=
  match s.phase with
  | .afterItem =>
    if isSpace c then .ok s
    else if c = ',' then .ok ⟨s.frames, .furtherItem⟩
    else if c = ']' then .ok (close s.frames)
    else .error .expectedListCommaOrEnd
  | .afterMember =>
    if isSpace c then .ok s
    else if c = ',' then .ok ⟨s.frames, .furtherKey⟩
    else if c = '\x7d' then .ok (close s.frames)
    else .error .expectedObjectCommaOrEnd
  | _ => if isSpace c then .ok s else .error .trailingCharacters

/-- Takes up one character. -/
def step (scope : Scope) (s : State) (c : Char) : Except Fault State :=
  match s.phase with
  | .value => if isSpace c then .ok s else startValue scope s.frames c
  | .firstItem =>
    if isSpace c then .ok s
    else if c = ']' then .ok (close s.frames)
    else startValue scope s.frames c
  | .furtherItem =>
    if isSpace c then .ok s
    else if c = ']' then .error .trailingComma
    else startValue scope s.frames c
  | .firstKey =>
    if isSpace c then .ok s
    else if c = '\x7d' then .ok (close s.frames)
    else if c = '"' then .ok ⟨s.frames, .string ⟨true, []⟩⟩
    else .error .keyNotString
  | .furtherKey =>
    if isSpace c then .ok s
    else if c = '\x7d' then .error .trailingComma
    else if c = '"' then .ok ⟨s.frames, .string ⟨true, []⟩⟩
    else .error .keyNotString
  | .colon =>
    if isSpace c then .ok s
    else if c = ':' then .ok ⟨s.frames, .value⟩
    else .error .expectedColon
  | .afterItem | .afterMember | .complete _ => s.settle c
  | .literal rest v =>
    match rest with
    | [] => .error .expectedLiteral
    | [d] => if c = d then .ok (deliver s.frames v) else .error .expectedLiteral
    | d :: ds => if c = d then .ok ⟨s.frames, .literal ds v⟩ else .error .expectedLiteral
  | .number n =>
    match n.step c with
    | .continued m => .ok ⟨s.frames, .number m⟩
    | .ended => do (← endNumber scope s.frames n).settle c
    | .refused => .error .invalidNumber
  | .string q => stringStep s.frames q c
  | .escape q => escapeStep s.frames q c
  | .hex q high unit owed =>
    match hexValue? c with
    | some d =>
      if owed ≤ 1 then
        match high with
        | none => do .ok ⟨s.frames, ← endUnit scope s.frames q (unit * 16 + d)⟩
        | some h => do .ok ⟨s.frames, ← endPair scope s.frames q h (unit * 16 + d)⟩
      else .ok ⟨s.frames, .hex q high (unit * 16 + d) (owed - 1)⟩
    | none =>
      if owed ≤ c.utf8Size then .error .invalidEscape
      else .ok ⟨s.frames, .wrongHex (owed - c.utf8Size)⟩
  | .lowBackslash q high =>
    if c = '\\' then .ok ⟨s.frames, .lowLetter q high⟩
    else do stringStep s.frames (← halfAlone scope s.frames q .brokenSurrogatePair) c
  | .lowLetter q high =>
    if c = 'u' then .ok ⟨s.frames, .hex q (some high) 0 4⟩
    else do escapeStep s.frames (← halfAlone scope s.frames q .brokenSurrogatePair) c
  | .wrongHex owed =>
    if owed ≤ c.utf8Size then .error .invalidEscape
    else .ok ⟨s.frames, .wrongHex (owed - c.utf8Size)⟩

/-- The fault of a text that ends in a phase other than `complete`. -/
def endFault : Phase → Fault
  | .firstItem | .afterItem => .endInList
  | .firstKey | .colon | .afterMember => .endInObject
  | .string _ | .escape _ | .hex .. | .lowBackslash .. | .lowLetter .. | .wrongHex _ => .endInString
  | .value | .furtherItem | .furtherKey | .complete _ | .literal .. | .number _ => .endInValue

/-- The value of a text that ends here. -/
def finish (scope : Scope) (s : State) : Except Fault Value :=
  match s.phase with
  | .complete v => .ok v
  | .number n =>
    if n.canEnd then
      match endNumber scope s.frames n with
      | .ok ⟨_, .complete v⟩ => .ok v
      | .ok t => .error (endFault t.phase)
      | .error e => .error e
    else .error .endInValue
  | p => .error (endFault p)

/-- Takes up the characters of a text. -/
def run (scope : Scope) (s : State) (cs : List Char) : Except Fault State :=
  cs.foldlM (step scope) s

theorem run_append (scope : Scope) (s : State) (xs ys : List Char) :
    s.run scope (xs ++ ys) = (s.run scope xs >>= fun t => t.run scope ys) := by
  simp [run, List.foldlM_append]

/-- The state up to which a text can be read. -/
def progress (scope : Scope) (s : State) : List Char → State
  | [] => s
  | c :: cs =>
    match s.step scope c with
    | .ok t => t.progress scope cs
    | .error _ => s

end State

/-- The value of a JSON text of which some part is wanted. -/
def readWithin (scope : Scope) (text : String) : Except Fault Value := do
  (← State.initial.run scope text.toList).finish scope

/-- The value of a JSON text. -/
def read (text : String) : Except Fault Value :=
  readWithin .all text

/-- The value of a JSON text in which only the members with some names are wanted. -/
def readMembers (names : List String) (text : String) : Except Fault Value :=
  readWithin (.members names) text

end Proximity.Json
