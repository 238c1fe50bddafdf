/-!
# Text with styles

Output is put together from pieces, some of which stand out by a colour. The same pieces can be written
with and without their styles.

* `plain` writes the texts alone, `painted` puts escape sequences around the pieces with a style.
-/
namespace Proximity.Text
set_option autoImplicit false

/-- A colour of the terminal. -/
inductive Colour where
  | red
  | green
  | yellow
  | blue
  | magenta
  | cyan
  deriving DecidableEq, Repr

/-- The digit that selects a colour. -/
def Colour.digit : Colour → Char
  | red => '1'
  | green => '2'
  | yellow => '3'
  | blue => '4'
  | magenta => '5'
  | cyan => '6'

/-- How a piece of text stands out. -/
structure Style where
  colour : Colour
  bold : Bool
  deriving DecidableEq, Repr

/-- A piece of text and its style, if it has one. -/
structure Piece where
  text : String
  style : Option Style
  deriving DecidableEq, Repr

/-- Text without a style. -/
def Piece.ofText (s : String) : Piece := ⟨s, none⟩

/-- A label: bold text of some colour. -/
def Piece.label (s : String) (c : Colour) : Piece := ⟨s, some ⟨c, true⟩⟩

/-- An escape sequence that changes the style of what follows. -/
def styleCode (code : List Char) : String :=
  String.ofList ('\x1b' :: '[' :: code ++ ['m'])

/-- The escape sequences before a piece of a style. -/
def Style.start (s : Style) : String :=
  styleCode ['0'] ++ (if s.bold then styleCode ['1'] else "") ++ styleCode ['3', s.colour.digit]

/-- A piece with its style. -/
def Piece.painted (p : Piece) : String :=
  match p.style with
  | none => p.text
  | some s => s.start ++ p.text ++ styleCode ['0']

/-- Pieces without their styles. -/
def plain (ps : List Piece) : String :=
  String.join (ps.map Piece.text)

/-- Pieces with their styles. -/
def painted (ps : List Piece) : String :=
  String.join (ps.map Piece.painted)

theorem plain_cons (p : Piece) (ps : List Piece) : plain (p :: ps) = p.text ++ plain ps := by
  simp [plain, String.join_cons]

theorem painted_cons (p : Piece) (ps : List Piece) :
    painted (p :: ps) = p.painted ++ painted ps := by
  simp [painted, String.join_cons]

/-- Pieces with or without their styles. -/
def paintedIf (colours : Bool) (ps : List Piece) : String :=
  if colours then painted ps else plain ps

end Proximity.Text
