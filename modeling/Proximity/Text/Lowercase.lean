import Proximity.Text.Cased
import Proximity.Text.CaseRuns

/-!
# Lower case of a text

The full lower case mapping of a text. It differs from mapping each character alone in two places:
U+0130 becomes two characters, and a capital sigma becomes a final sigma where a cased letter stands
before it and none after it, characters without case weight apart.
-/
namespace Proximity.Text
set_option autoImplicit false

/-- The small letter or letters of one character, apart from its surroundings. -/
def lowercaseChar (c : Char) : List Char :=
  if c = '\u0130' then ['i', '\u0307'] else [smallLetter c]

/-- Whether the next character that carries case weight is cased. -/
def nextIsCased (cs : List Char) : Bool :=
  match cs.dropWhile isCaseIgnorable with
  | [] => false
  | c :: _ => isCased c

/-- Whether a sigma ends a word, given what stands before it, nearest first, and after it. -/
def isFinalSigma (before after : List Char) : Bool :=
  nextIsCased before && !nextIsCased after

/-- Lower case of `cs` when the characters `before`, nearest first, stand in front of it. -/
def lowercaseAfter (before : List Char) : List Char → List Char
  | [] => []
  | c :: cs =>
    (if c = 'Σ' then [if isFinalSigma before cs then 'ς' else 'σ'] else lowercaseChar c)
      ++ lowercaseAfter (c :: before) cs

/-- The lower case of a text. -/
def lowercase (cs : List Char) : List Char :=
  lowercaseAfter [] cs

/-- The lower case of a string. -/
def lowercased (s : String) : String :=
  String.ofList (lowercase s.toList)

end Proximity.Text
