/-!
# Word classes

The classes of the Word_Break property, which decide where a text may be cut between words, a class of
its own for pictographs behind a joiner, and the groups of classes that the rules speak of.
-/
namespace Proximity.Text
set_option autoImplicit false

/-- What a character does at a word boundary. -/
inductive WordClass where
  | carriageReturn
  | lineFeed
  | newline
  | extend
  | joiner
  | format
  | regional
  | katakana
  | hebrew
  | letter
  | singleQuote
  | doubleQuote
  | midNumLet
  | midLetter
  | midNum
  | numeric
  | connector
  | space
  /-- A pictograph that a joiner attaches to what stands before it. -/
  | joinedPictograph
  | other
  deriving DecidableEq, Repr

namespace WordClass

/-- Ends a line. -/
def isLineEnd : WordClass → Bool
  | carriageReturn | lineFeed | newline => true
  | _ => false

/-- Attaches to the character before it and is passed over by the later rules. -/
def isAttached : WordClass → Bool
  | extend | joiner | format => true
  | _ => false

/-- A letter, Hebrew or not. -/
def isLetter : WordClass → Bool
  | letter | hebrew => true
  | _ => false

/-- Joins letters when it stands alone between two of them. -/
def joinsLetters : WordClass → Bool
  | midLetter | midNumLet | singleQuote => true
  | _ => false

/-- Joins numbers when it stands alone between two of them. -/
def joinsNumbers : WordClass → Bool
  | midNum | midNumLet | singleQuote => true
  | _ => false

/-- A letter, a number or a katakana character: what a connector may stand before. -/
def isWordPart : WordClass → Bool
  | letter | hebrew | numeric | katakana => true
  | _ => false

end WordClass

end Proximity.Text
