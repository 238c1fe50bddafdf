import Proximity.Text.Printable

/-!
# Quoted text

Text between double quotes in which every character can be seen: quotes, backslashes and the common
controls are written with a backslash, everything else without a visible form of its own by its code
point, such as `\u{200b}`.
-/
namespace Proximity.Text
set_option autoImplicit false

/-- A character by its code point in hexadecimal digits. -/
def escapedCodePoint (c : Char) : List Char :=
  ['\\', 'u', '\x7b'] ++ Nat.toDigits 16 c.toNat ++ ['\x7d']

/-- How one character is shown inside quoted text. -/
def escapedChar (c : Char) : List Char :=
  match c with
  | '\x00' => ['\\', '0']
  | '\t' => ['\\', 't']
  | '\r' => ['\\', 'r']
  | '\n' => ['\\', 'n']
  | '"' => ['\\', '"']
  | '\\' => ['\\', '\\']
  | _ => if isPrintable c then [c] else escapedCodePoint c

/-- A string between double quotes, with every character visible. -/
def quoted (s : String) : String :=
  String.ofList ('"' :: s.toList.flatMap escapedChar ++ ['"'])

/-- A list of strings, each quoted, between brackets. -/
def quotedList (ss : List String) : String :=
  "[" ++ ", ".intercalate (ss.map quoted) ++ "]"

end Proximity.Text
