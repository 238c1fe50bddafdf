import Proximity.Analysis.Analyzer
import Proximity.Text.Alphanumeric
import Proximity.Text.Blank
import Proximity.Text.Lowercase
import Proximity.Text.Uppercase
import Proximity.Text.WordBreak

/-!
# The named analyzers

`standard` cuts a text at its word boundaries, keeps the pieces that have a letter or a number, and
writes those with a capital in small letters. `whitespace` keeps the words between blanks as they are.
Both leave out tokens of more than 255 octets.
-/
namespace Proximity.Analysis
set_option autoImplicit false

/-- The greatest number of octets of a token that becomes a term. -/
def maxTermLength : Nat := 255

/-- Whether a token is short enough to become a term. -/
def fits (token : String) : Bool :=
  token.utf8ByteSize ≤ maxTermLength

/-- Whether a piece of text is a word: it has a letter or a number. -/
def isWord (piece : List Char) : Bool :=
  piece.any Text.isAlphanumeric

/-- A token in small letters. Only a token with a capital is changed. -/
def normalized (token : List Char) : List Char :=
  if token.any Text.isUppercase then Text.lowercase token else token

/-- The words of a text in small letters, in the order of the text. -/
def standardTerms (text : String) : List String :=
  ((Text.wordPieces text.toList).filter fun p => isWord p && fits (String.ofList p)).map
    fun p => String.ofList (normalized p)

/-- The runs of characters between blanks, in the order of the text. -/
def blankSeparated (text : String) : List String :=
  (Text.words text.toList).map String.ofList

/-- The tokens between blanks that are short enough. -/
def whitespaceTerms (text : String) : List String :=
  (blankSeparated text).filter fits

/-- Words between word boundaries, in small letters. -/
def standard : Analyzer := fun _ text => .ok (standardTerms text)

/-- Words between blanks, as they are. -/
def whitespace : Analyzer := fun _ text => .ok (whitespaceTerms text)

/-- The analyzer with a name. -/
def named? (name : String) : Option Analyzer :=
  if name = "standard" then some standard
  else if name = "whitespace" then some whitespace
  else none

/-- The name of the analyzer that is used where none is named. -/
def defaultName : String := "standard"

end Proximity.Analysis
