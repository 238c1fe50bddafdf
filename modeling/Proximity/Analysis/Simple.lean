import Proximity.Analysis.Standard

/-!
# Simple analyzers

Analyzers for fields that are indexed without word boundaries: `lowercaseWords` for plain words,
`characters` for single characters, `keyword` for fields that are indexed whole; and `failingOn`,
which stands for an analyzer whose resources are missing for some texts.
-/
namespace Proximity.Analysis
set_option autoImplicit false

/-- A text without the quotes at its ends. -/
def withoutQuotes (cs : List Char) : List Char :=
  ((cs.dropWhile (· = '"')).reverse.dropWhile (· = '"')).reverse

/-- Words between blanks, without outer quotes and in small letters. -/
def lowercaseWords : Analyzer := fun _ text =>
  .ok (((Text.words text.toList).map fun w => Text.lowercase (withoutQuotes w)).filter
    (fun w => !w.isEmpty) |>.map String.ofList)

/-- Whether one text stands somewhere inside another. -/
def occursIn (needle : List Char) : List Char → Bool
  | [] => needle.isEmpty
  | c :: cs => needle.isPrefixOf (c :: cs) || occursIn needle cs

/-- Fails with a reason on texts that contain some word, and leaves others to an analyzer. -/
def failingOn (word reason : String) (a : Analyzer) : Analyzer := fun field text =>
  if occursIn word.toList text.toList then .error ⟨field, text, reason⟩ else a field text

/-- Every character is a term. -/
def characters : Analyzer := fun _ text =>
  .ok (text.toList.map fun c => String.ofList [c])

/-- The field and the text, with a bar between them, are the only term. -/
def keyword : Analyzer := fun field text =>
  .ok [field ++ "|" ++ text]

end Proximity.Analysis
