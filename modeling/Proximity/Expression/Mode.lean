import Proximity.Refusal
import Proximity.Text.Lowercase

/-!
# Compile modes

An expression is compiled in one of two ways: aware of phrases, with every pairing of its terms, or
loosely, with one pairing and optional terms around it.
-/
namespace Proximity
set_option autoImplicit false

/-- How an expression becomes a query. -/
inductive Mode where
  | phraseAware
  | looseTerms
  deriving DecidableEq, Repr

namespace Mode

/-- The mode that is used where none is given. -/
def standard : Mode := looseTerms

/-- Whether text between quotes is a phrase. -/
def recognizesPhrases : Mode → Bool
  | phraseAware => true
  | looseTerms => false

/-- The names of the modes, the short ones included. -/
def names : List (String × Mode) :=
  [("phrase", phraseAware), ("phrase_aware", phraseAware), ("loose", looseTerms),
    ("loose_terms", looseTerms)]

/-- The full name of a mode. -/
def name : Mode → String
  | phraseAware => "phrase_aware"
  | looseTerms => "loose_terms"

/-- Reads the name of a mode in capital or small letters. -/
def parse (text : String) : Outcome Mode :=
  match names.lookup (Text.lowercased text) with
  | some mode => .ok mode
  | none => .error (.malformedAt .unknownMode text)

end Mode

end Proximity
