/-!
# Text without terminal controls

Lines that go to a file rather than a terminal are written without escape sequences and without
controls other than line ends, tabs and form feeds. An escape sequence can be interrupted: after one of
these controls inside a sequence the text is kept as it is up to the next control, or up to a character
outside ASCII, which also ends the sequence.
-/
namespace Proximity.Text
set_option autoImplicit false

/-- Where a text stands with respect to escape sequences. -/
inductive TerminalState where
  | ground
  /-- After an escape character. -/
  | escape
  /-- Inside an escape sequence that ends with its next letter or digit. -/
  | intermediate
  /-- Inside a control sequence, which ends with a letter. -/
  | control
  /-- Inside a command, which a bell ends. -/
  | command
  /-- At the start of a device string. -/
  | device
  /-- After a parameter of a device string. -/
  | deviceParameter
  /-- After an intermediate character of a device string. -/
  | deviceIntermediate
  /-- Inside a text for a device, which the octet 9C ends. -/
  | hidden
  deriving DecidableEq, Repr

/-- A control that moves on the page and is kept. -/
def isLayout (c : Char) : Bool :=
  c = '\t' || c = '\n' || c = '\x0c' || c = '\r'

/-- A character that is kept outside escape sequences. -/
def isShown (c : Char) : Bool :=
  isLayout c || (' ' ≤ c && c ≠ '\x7f')

/-- Whether the octet 9C, which ends the text for a device, is part of a character. -/
def holdsTerminator (c : Char) : Bool :=
  (String.utf8EncodeChar c).contains 0x9C

namespace TerminalState

/-- The state after a character that follows an escape character. -/
def afterEscape (c : Char) : TerminalState :=
  if c < ' ' then escape
  else if c ≤ '/' then intermediate
  else if c = '[' then control
  else if c = ']' then command
  else if c = 'P' then device
  else if c = 'X' || c = '^' || c = '_' then hidden
  else if c ≤ '~' then ground
  else escape

/-- The state after a character inside the front part of a device string that is in state `s`; a
character from `<` to `?` leads to `marked`. -/
def inDevice (s marked : TerminalState) (c : Char) : TerminalState :=
  if c < ' ' then s
  else if c ≤ '/' then deviceIntermediate
  else if c ≤ ';' then if s = deviceIntermediate then hidden else deviceParameter
  else if c ≤ '?' then marked
  else if c ≤ '~' then hidden
  else s

/-- The state after a character. -/
def next (s : TerminalState) (c : Char) : TerminalState :=
  if c = '\x1b' then escape
  else if c = '\x18' || c = '\x1a' then ground
  else
    match s with
    | ground => ground
    | escape => afterEscape c
    | intermediate => if '0' ≤ c && c ≤ '~' then ground else intermediate
    | control => if '@' ≤ c && c ≤ '~' then ground else control
    | command => if c = '\x07' then ground else command
    | device => inDevice device deviceParameter c
    | deviceParameter => inDevice deviceParameter hidden c
    | deviceIntermediate => inDevice deviceIntermediate hidden c
    | hidden => if holdsTerminator c then ground else hidden

/-- Whether a character is kept in a state. -/
def keeps (s : TerminalState) (c : Char) : Bool :=
  match s with
  | ground => isShown c
  | escape | intermediate | control => isLayout c
  | _ => false

end TerminalState

/-- The characters that are kept from a state on; `flowing` says that the last one was. -/
def keptFrom (s : TerminalState) (flowing : Bool) : List Char → List Char
  | [] => []
  | c :: cs =>
    if flowing && isShown c then c :: keptFrom (if c ≤ '\x7f' then s else .ground) true cs
    else if s.keeps c then c :: keptFrom (s.next c) true cs
    else keptFrom (s.next c) false cs

/-- A string without escape sequences and controls. -/
def withoutControls (s : String) : String :=
  String.ofList (keptFrom .ground false s.toList)

end Proximity.Text
