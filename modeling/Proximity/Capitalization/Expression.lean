import Proximity.Capitalization.Class
import Proximity.Query.Tree
import Proximity.Refusal
import Proximity.Text.Blank

/-!
# Capitalization expressions

An expression such as `firstcap(Trump)` asks for a term with the payload of a capitalization class.
The keyword is matched without regard to case, where U+017F counts as a small `s`; but a keyword
spelled with that letter names no class.
-/
namespace Proximity
set_option autoImplicit false

/-- A keyword and its argument as they are written. -/
structure Application where
  keyword : String
  argument : String
  deriving DecidableEq, Repr

/-- The letter that a character of a keyword stands for. -/
def foldedLetter (c : Char) : Char :=
  if c = 'ſ' then 's' else Text.smallAscii c

/-- Whether some text is the keyword of a class up to case. -/
def isKeyword (word : List Char) : Bool :=
  Capitalization.all.any fun c => c.keyword.toList = word.map foldedLetter

/-- The text of an argument: what stands between the parentheses, without outer blanks, if it is not
empty and has no blanks inside. -/
def argument? (body : List Char) : Option (List Char) :=
  match Text.trim body with
  | [] => none
  | a => if a.any Text.isBlank then none else some a

/-- The keyword before the first parenthesis and the argument between it and the last character, which
has to be a parenthesis too. -/
def application? (text : List Char) : Option (List Char × List Char) :=
  let word := text.takeWhile (· ≠ '(')
  match text.dropWhile (· ≠ '(') with
  | '(' :: rest =>
    if isKeyword word && rest.getLast? = some ')' then
      (argument? rest.dropLast).map fun a => (word, a)
    else none
  | _ => none

/-- Reads the written form of a capitalization expression. -/
def Application.parse (raw : String) : Outcome Application :=
  let text := Text.trim raw.toList
  match application? text with
  | some (word, argument) => .ok ⟨String.ofList word, String.ofList argument⟩
  | none => .error (.malformedAt .invalidCapitalization (String.ofList text))

/-- The class that the keyword of an application names. -/
def Application.kind (a : Application) : Outcome Capitalization :=
  match Capitalization.ofKeyword? a.keyword with
  | some c => .ok c
  | none => .error (.malformedAt .noPayload a.keyword)

/-- The only term of the argument of an application. -/
def Application.term (a : Application) (field : String) (analyzer : Analyzer) : Outcome String :=
  match analyzer field a.argument with
  | .error e => .error (.analysis e)
  | .ok [] => .error (.malformedAt .emptyOperand a.argument)
  | .ok [t] => .ok t
  | .ok _ => .error (.malformedAt .severalTerms a.argument)

/-- A capitalization expression after analysis. -/
structure CapitalizationExpression where
  kind : Capitalization
  term : String
  deriving DecidableEq, Repr

namespace CapitalizationExpression

/-- Parses an expression for a field. Its argument has to become exactly one term. -/
def parse (field raw : String) (analyzer : Analyzer) : Outcome CapitalizationExpression := do
  let a ← Application.parse raw
  let c ← a.kind
  return ⟨c, ← a.term field analyzer⟩

/-- The query of an expression. -/
def query (e : CapitalizationExpression) (field : String) : Node :=
  .payload ⟨field, e.term⟩ [e.kind.code]

end CapitalizationExpression

/-- Parses and compiles a capitalization expression. -/
def compileCapitalization (field raw : String) (analyzer : Analyzer) : Outcome Node := do
  return (← CapitalizationExpression.parse field raw analyzer).query field

end Proximity
