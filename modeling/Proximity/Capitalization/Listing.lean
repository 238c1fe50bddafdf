import Proximity.Capitalization.Class
import Proximity.Text.Styled

/-!
# Lists of tokens with their classes

Each token stands on a line of its own with the keyword and the code character of its class, or with a
dash if it has none.
-/
namespace Proximity
set_option autoImplicit false
open Text

namespace Capitalization

/-- The code of a class as a character. -/
def codeChar (c : Capitalization) : Char :=
  Char.ofNat c.code.toNat

/-- The line of a token. -/
def listingLine (token : String) : List Piece :=
  match ofToken? token with
  | some c =>
    [.ofText (token ++ "\t"), ⟨c.keyword, some ⟨.green, false⟩⟩,
      .ofText (" (" ++ String.ofList [c.codeChar] ++ ")\n")]
  | none => [.ofText (token ++ "\t"), .ofText "-\n"]

/-- The lines of some tokens. -/
def listing (tokens : List String) (colours : Bool) : String :=
  paintedIf colours (tokens.flatMap listingLine)

end Capitalization

end Proximity
