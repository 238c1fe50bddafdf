import Proximity.Text.CodePoints

/-!
# Blank characters, trimming and words

`isBlank` is the White_Space property. `trim` removes the blanks at both ends of a text, and `words`
cuts a text into its maximal runs of characters that are not blank, in the order of the text.
-/
namespace Proximity.Text
set_option autoImplicit false

/-- Code points with the White_Space property. -/
def blank : List (Nat × Nat) :=
  [(0x9, 0xD), (0x20, 0x20), (0x85, 0x85), (0xA0, 0xA0), (0x1680, 0x1680), (0x2000, 0x200A),
   (0x2028, 0x2029), (0x202F, 0x202F), (0x205F, 0x205F), (0x3000, 0x3000)]

/-- A character that separates words. -/
def isBlank (c : Char) : Bool :=
  inRanges blank c.toNat

/-! ## Trimming -/

/-- The text without its leading blanks. -/
def trimStart (cs : List Char) : List Char :=
  cs.dropWhile isBlank

/-- The text without its trailing blanks. -/
def trimEnd (cs : List Char) : List Char :=
  (cs.reverse.dropWhile isBlank).reverse

/-- The text without the blanks at its ends. -/
def trim (cs : List Char) : List Char :=
  trimEnd (trimStart cs)

/-- The string without the blanks at its ends. -/
def trimmed (s : String) : String :=
  String.ofList (trim s.toList)

/-! ## Words -/

/-- A text that is being cut into words from its end: the word under way and the words after it. -/
structure Cutting where
  word : List Char
  later : List (List Char)
  deriving DecidableEq, Repr

namespace Cutting

/-- The words cut off so far, the one under way included if it has begun. -/
def finish (s : Cutting) : List (List Char) :=
  if s.word.isEmpty then s.later else s.word :: s.later

/-- Takes up the character in front: a blank ends the word under way, any other extends it. -/
def take (c : Char) (s : Cutting) : Cutting :=
  if isBlank c then ⟨[], s.finish⟩ else ⟨c :: s.word, s.later⟩

end Cutting

/-- The maximal runs of characters that are not blank, in the order of the text. -/
def words (cs : List Char) : List (List Char) :=
  (cs.foldr Cutting.take ⟨[], []⟩).finish

end Proximity.Text
