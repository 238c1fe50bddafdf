import Proximity.Cli.Event
import Proximity.Text.Ascii
import Proximity.Text.Blank
import Proximity.Text.Terminal

/-!
# Which events are reported

A filter is a list of directives with commas between them. A directive is a level for everything, the
name of a part of the program, or both with an equals sign between them. The directive with the longest
name that an origin begins with decides, the last one of several.
-/
namespace Proximity.Cli
set_option autoImplicit false

/-- The level up to which the parts with some name are reported. No level turns them off, and no name
stands for all parts. -/
structure Directive where
  name : Option (List Char)
  level : Option Level
  deriving DecidableEq, Repr

/-- The directives of a filter. -/
abbrev Filter : Type := List Directive

/-- The parts of a text between separators. -/
def partsBetween (separator : Char) : List Char → List (List Char)
  | [] => [[]]
  | c :: cs =>
    if c = separator then [] :: partsBetween separator cs
    else
      match partsBetween separator cs with
      | [] => [[c]]
      | p :: ps => (c :: p) :: ps

/-- A level by its name in capital or small letters, `off` being no level. -/
def levelNamed? (word : List Char) : Option (Option Level) :=
  let small := String.ofList (word.map Text.smallAscii)
  if small = "off" then some none else (Level.names.lookup small).map some

/-- Reads one directive, or returns the part of it that is wrong. -/
def Directive.parse (text : List Char) : Except (List Char) Directive :=
  match partsBetween '=' text with
  | [word] =>
    match levelNamed? word with
    | some level => .ok ⟨none, level⟩
    | none => .ok ⟨some word, some .trace⟩
  | [name, word] =>
    let word := Text.trim word
    if word.isEmpty then .ok ⟨some name, some .trace⟩
    else
      match levelNamed? word with
      | some level => .ok ⟨some name, level⟩
      | none => .error word
  | _ => .error text

/-- Puts a directive behind the others, or in the place of the one with the same name. -/
def Filter.insert (d : Directive) : Filter → Filter
  | [] => [d]
  | e :: es => if e.name = d.name then d :: es else e :: Filter.insert d es

/-- Takes up one directive, or a warning about it. -/
def Filter.take (s : Filter × List String) (text : List Char) : Filter × List String :=
  let text := Text.trim text
  if text.isEmpty then s
  else
    match Directive.parse text with
    | .ok d => (Filter.insert d s.1, s.2)
    | .error wrong =>
      (s.1, s.2 ++
        ["warning: invalid logging spec '" ++ String.ofList wrong ++ "', ignoring it\n"])

/-- Reads a filter, with warnings about the directives that are left out. -/
def Filter.parse (spec : String) : Filter × List String :=
  (partsBetween ',' spec.toList).foldl Filter.take ([], [])

/-- Whether a directive speaks of a part of the program. -/
def Directive.covers (d : Directive) (o : Origin) : Bool :=
  match d.name with
  | none => true
  | some name => name.isPrefixOf o.path.toList

/-- The length of the name of a directive. -/
def Directive.weight (d : Directive) : Nat :=
  match d.name with
  | none => 0
  | some name => (String.ofList name).utf8ByteSize

/-- The directive that decides about a part of the program: the one with the longest name, the last of
several. -/
def Filter.deciding (f : Filter) (o : Origin) : Option Directive :=
  (f.filter fun d => d.covers o).foldl
    (fun best d =>
      match best with
      | none => some d
      | some b => if b.weight ≤ d.weight then some d else some b)
    none

/-- Whether an event is reported. Without directives, only errors are. -/
def Filter.reports (f : Filter) (e : Event) : Bool :=
  let level :=
    if f.isEmpty then some Level.error
    else (f.deciding e.origin).bind Directive.level
  match level with
  | none => false
  | some l => e.level.rank ≤ l.rank

/-- A text whose further lines are four blanks deeper. -/
def indented (s : String) : String :=
  String.ofList (s.toList.flatMap fun c => if c = '\n' then ['\n', ' ', ' ', ' ', ' '] else [c])

/-- The report of an event. -/
def Event.line (e : Event) : String :=
  Text.withoutControls
    ("[" ++ e.level.column ++ " " ++ e.origin.path ++ "] " ++ indented e.message ++ "\n")

end Proximity.Cli
