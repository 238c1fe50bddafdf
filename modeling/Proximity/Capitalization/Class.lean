import Proximity.Text.Ascii
import Proximity.Text.Uppercase

/-!
# Capitalization classes

An indexed term can carry the way it was capitalized in the text as a payload of one octet. A token
whose characters are all capitals is `allCap`, one whose first character is its only capital is
`firstCap`, any other token with a capital is `cap`, and a token without capitals has no class.
-/
namespace Proximity
set_option autoImplicit false

/-- How a token is capitalized. -/
inductive Capitalization where
  | firstCap
  | allCap
  | cap
  deriving DecidableEq, Repr

namespace Capitalization

/-- The classes in the order in which they are looked up. -/
def all : List Capitalization :=
  [firstCap, allCap, cap]

/-- The payload octet of a class. -/
def code : Capitalization → UInt8
  | firstCap => 70
  | allCap => 65
  | cap => 67

/-- The keyword of a class in expressions. -/
def keyword : Capitalization → String
  | firstCap => "firstcap"
  | allCap => "allcap"
  | cap => "cap"

/-- The class with a keyword, in capital or small ASCII letters. -/
def ofKeyword? (word : String) : Option Capitalization :=
  all.find? fun c => c.keyword.toList = word.toList.map Text.smallAscii

/-- The class with a payload octet. -/
def ofCode? (octet : UInt8) : Option Capitalization :=
  all.find? fun c => c.code = octet

/-- What is known of a token while its characters are read: the number of its capitals, whether it has another
character, and whether its first character is a capital. -/
structure Tally where
  capitals : Nat
  hasOther : Bool
  firstIsCapital : Bool
  deriving DecidableEq, Repr

namespace Tally

/-- No character is read yet. -/
def start : Tally := ⟨0, false, false⟩

/-- Takes up the character at some position. -/
def take (t : Tally) (c : Char) (position : Nat) : Tally :=
  if Text.isUppercase c then
    { t with
      capitals := t.capitals + 1
      firstIsCapital := if position = 0 then true else t.firstIsCapital }
  else { t with hasOther := true }

/-- Takes up the characters of a token from the first to the last. -/
def ofChars (cs : List Char) : Tally :=
  cs.zipIdx.foldl (fun t (c, position) => t.take c position) start

/-- The class of a token of which this is known. -/
def kind? (t : Tally) : Option Capitalization :=
  if t.capitals = 0 then none
  else if !t.hasOther then some allCap
  else if t.firstIsCapital && t.capitals = 1 then some firstCap
  else some cap

end Tally

/-- The class of a token. -/
def ofToken? (token : String) : Option Capitalization :=
  (Tally.ofChars token.toList).kind?

end Capitalization

end Proximity
