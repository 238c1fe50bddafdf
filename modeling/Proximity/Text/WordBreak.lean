import Proximity.Text.WordBreak.Table

/-!
# Word boundaries

Where a text is cut into pieces at word boundaries. `joins` says whether the two characters at a
position stay together, from what stands before the position, nearest first, and after it.
`wordPieces` cuts a text at all other positions, so that the pieces put together give the text back.

A pictograph behind a joiner stays with what is before it, and a mark that joins letters or numbers also
joins such a pictograph. Whatever letter the pictograph is besides, it joins nothing behind it.
-/
namespace Proximity.Text
set_option autoImplicit false

/-- A character with the class that the boundary rules look at. -/
structure Mark where
  char : Char
  kind : WordClass
  deriving DecidableEq, Repr

/-- A character with its class, given whether a joiner stands right before it. -/
def Mark.behind (joiner : Bool) (c : Char) : Mark :=
  ⟨c, if joiner && isPictograph c then .joinedPictograph else .ofChar c⟩

/-- The characters of a text with their classes, given whether a joiner stands right before it. -/
def marksBehind (joiner : Bool) : List Char → List Mark
  | [] => []
  | c :: cs => Mark.behind joiner c :: marksBehind (WordClass.ofChar c = .joiner) cs

/-- The classes from the first character on that is not attached to the one before it. -/
def significant (marks : List Mark) : List Mark :=
  marks.dropWhile fun m => m.kind.isAttached

/-- The class of the nearest character that is not attached to another one. -/
def nearest (marks : List Mark) : WordClass :=
  match significant marks with
  | [] => .other
  | m :: _ => m.kind

/-- The number of regional indicators without interruption, attached characters apart. -/
def regionalRun (marks : List Mark) : Nat :=
  ((marks.filter fun m => !m.kind.isAttached).takeWhile fun m => m.kind = .regional).length

/-- The rules on letters: letters stay together, also across one mark that joins letters, and Hebrew
letters keep a following single quote and a double quote between two of them. -/
def joinsAsLetters (far near next beyond : WordClass) : Bool :=
  (near.isLetter && next.isLetter)
  || (near.isLetter && next.joinsLetters && (beyond.isLetter || beyond = .joinedPictograph))
  || (far.isLetter && near.joinsLetters && next.isLetter)
  || (near = .hebrew && next = .singleQuote)
  || (near = .hebrew && next = .doubleQuote && (beyond = .hebrew || beyond = .joinedPictograph))
  || (far = .hebrew && near = .doubleQuote && next = .hebrew)

/-- The rules on numbers: numbers stay together with numbers and letters, also across one mark that
joins numbers. -/
def joinsAsNumbers (far near next beyond : WordClass) : Bool :=
  (near = .numeric && next = .numeric)
  || (near.isLetter && next = .numeric)
  || (near = .numeric && next.isLetter)
  || (far = .numeric && near.joinsNumbers && next = .numeric)
  || (near = .numeric && next.joinsNumbers
    && (beyond = .numeric || beyond = .joinedPictograph))

/-- The rules on katakana and on connectors, which attach to what they connect. -/
def joinsByConnector (near next : WordClass) : Bool :=
  (near = .katakana && next = .katakana)
  || ((near.isWordPart || near = .connector) && next = .connector)
  || (near = .connector && next.isWordPart)

/-- Whether the text stays together between `before`, nearest first, and `after`. -/
def joins (before after : List Mark) : Bool :=
  match before, after with
  | p :: _, n :: rest =>
    if p.kind = .carriageReturn && n.kind = .lineFeed then true
    else if p.kind.isLineEnd || n.kind.isLineEnd then false
    else if n.kind = .joinedPictograph then true
    else if p.kind = .space && n.kind = .space then true
    else if n.kind.isAttached then true
    else
      let near := nearest before
      let far := nearest (significant before).tail
      let beyond := nearest rest
      joinsAsLetters far near n.kind beyond
      || joinsAsNumbers far near n.kind beyond
      || joinsByConnector near n.kind
      || (near = .regional && n.kind = .regional && regionalRun before % 2 = 1)
  | _, _ => false

/-- Puts a character in front of the first piece. -/
def prepend (c : Char) : List (List Char) → List (List Char)
  | [] => [[c]]
  | piece :: pieces => (c :: piece) :: pieces

/-- The pieces of a text that follows the characters `before`, nearest first. -/
def piecesAfter (before : List Mark) : List Mark → List (List Char)
  | [] => []
  | m :: rest =>
    if joins (m :: before) rest then prepend m.char (piecesAfter (m :: before) rest)
    else [m.char] :: piecesAfter (m :: before) rest

/-- The pieces of a text between its word boundaries. -/
def wordPieces (cs : List Char) : List (List Char) :=
  piecesAfter [] (marksBehind false cs)

/-! ## The pieces give the text back -/

theorem flatten_prepend (c : Char) (pieces : List (List Char)) :
    (prepend c pieces).flatten = c :: pieces.flatten := by
  cases pieces with
  | nil => rfl
  | cons piece pieces => rfl

theorem flatten_piecesAfter (before marks : List Mark) :
    (piecesAfter before marks).flatten = marks.map Mark.char := by
  induction marks generalizing before with
  | nil => rfl
  | cons m rest ih =>
    rw [piecesAfter, List.map_cons]
    split
    · rw [flatten_prepend, ih]
    · rw [List.flatten_cons, ih, List.singleton_append]

theorem map_char_marksBehind (joiner : Bool) (cs : List Char) :
    (marksBehind joiner cs).map Mark.char = cs := by
  induction cs generalizing joiner with
  | nil => rfl
  | cons c cs ih => rw [marksBehind, List.map_cons, ih, Mark.behind]

theorem flatten_wordPieces (cs : List Char) : (wordPieces cs).flatten = cs := by
  rw [wordPieces, flatten_piecesAfter, map_char_marksBehind]

end Proximity.Text
