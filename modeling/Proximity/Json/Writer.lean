import Proximity.Json.Value

/-!
# Writing JSON

A value is written over several lines, two blanks deeper for each array or object around it. Empty
arrays and objects stay on one line. Inside strings only quotes, backslashes and controls below
U+0020 are escaped.
-/
namespace Proximity.Json
set_option autoImplicit false

/-- How one character is written inside a string. -/
def escapeChar (c : Char) : List Char :=
  match c with
  | '"' => ['\\', '"']
  | '\\' => ['\\', '\\']
  | '\x08' => ['\\', 'b']
  | '\x0c' => ['\\', 'f']
  | '\n' => ['\\', 'n']
  | '\r' => ['\\', 'r']
  | '\t' => ['\\', 't']
  | _ =>
    if c < ' ' then
      ['\\', 'u', '0', '0', Nat.digitChar (c.toNat / 16), Nat.digitChar (c.toNat % 16)]
    else [c]

/-- A string between quotes. -/
def writeString (s : String) : List Char :=
  '"' :: s.toList.flatMap escapeChar ++ ['"']

/-- A number. -/
def writeNumber : Number → List Char
  | .integer i => if i < 0 then '-' :: Nat.toDigits 10 i.natAbs else Nat.toDigits 10 i.natAbs
  | .decimal d =>
    (if d.negative then ['-'] else []) ++ Nat.toDigits 10 d.significand ++ ['e']
      ++ (if d.exponent < 0 then ['-'] else []) ++ Nat.toDigits 10 d.exponent.natAbs

/-- A new line with the blanks of a depth. -/
def newLine (depth : Nat) : List Char :=
  '\n' :: List.replicate (2 * depth) ' '

namespace Value

mutual

/-- A value inside `depth` arrays and objects. -/
def write (depth : Nat) : Value → List Char
  | .null => ['n', 'u', 'l', 'l']
  | .bool true => ['t', 'r', 'u', 'e']
  | .bool false => ['f', 'a', 'l', 's', 'e']
  | .number n => writeNumber n
  | .string s => writeString s
  | .array [] => ['[', ']']
  | .array (v :: vs) =>
    '[' :: newLine (depth + 1) ++ v.write (depth + 1) ++ writeItems (depth + 1) vs
      ++ newLine depth ++ [']']
  | .object [] => ['\x7b', '\x7d']
  | .object ((k, v) :: ms) =>
    '\x7b' :: newLine (depth + 1) ++ writeString k ++ [':', ' '] ++ v.write (depth + 1)
      ++ writeMembers (depth + 1) ms ++ newLine depth ++ ['\x7d']

/-- The items after the first one, each on a line of its own. -/
def writeItems (depth : Nat) : List Value → List Char
  | [] => []
  | v :: vs => ',' :: newLine depth ++ v.write depth ++ writeItems depth vs

/-- The members after the first one, each on a line of its own. -/
def writeMembers (depth : Nat) : List (String × Value) → List Char
  | [] => []
  | (k, v) :: ms =>
    ',' :: newLine depth ++ writeString k ++ [':', ' '] ++ v.write depth ++ writeMembers depth ms

end

/-- The text of a value. -/
def text (v : Value) : String :=
  String.ofList (v.write 0)

end Value

end Proximity.Json
