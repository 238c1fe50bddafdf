import Proximity.Query.Rendering
import Proximity.Request.Basic

/-!
# Command line arguments

A command line is a subcommand with options and values. Options can be written long, `--field title` or
`--field=title`, or short, `-f title`, `-ftitle` or `-f=title`; short options without a value may share
a dash. The options for the output may stand before the subcommand or behind it, each once in both
places; the ones behind it win. Two dashes end the options.
-/
namespace Proximity.Cli
set_option autoImplicit false

/-! ## Options -/

/-- The options of the program. -/
inductive OptionName where
  | format
  | noColour
  | verbose
  | field
  | mode
  | minimum
  | analyzer
  deriving DecidableEq, Repr

/-- How an option is written. -/
structure OptionForm where
  name : OptionName
  short : Option Char
  long : String
  hasValue : Bool

/-- The options for the output, which stand anywhere. -/
def outputForms : List OptionForm :=
  [⟨.format, none, "format", true⟩, ⟨.noColour, none, "no-color", false⟩,
    ⟨.verbose, some 'v', "verbose", false⟩]

/-- The option for the field. -/
def fieldForm : OptionForm := ⟨.field, some 'f', "field", true⟩

/-- The option for the analyzer. -/
def analyzerForm : OptionForm := ⟨.analyzer, some 'a', "analyzer", true⟩

/-- The subcommands. -/
inductive Subcommand where
  | prox
  | cap
  | request
  | classify
  deriving DecidableEq, Repr

/-- The subcommands by their names. -/
def Subcommand.names : List (String × Subcommand) :=
  [("prox", prox), ("cap", cap), ("request", request), ("classify", classify)]

/-- The options behind a subcommand. -/
def Subcommand.forms : Subcommand → List OptionForm
  | prox =>
    outputForms ++
      [fieldForm, ⟨.mode, some 'm', "mode", true⟩, ⟨.minimum, none, "mm", true⟩, analyzerForm]
  | cap => outputForms ++ [fieldForm, analyzerForm]
  | request => outputForms
  | classify => outputForms

/-! ## Reading arguments -/

/-- The arguments read so far: the options with their values, the values without an option, the option
that waits for its value, and whether the options have ended. -/
structure Arguments where
  options : List (OptionName × String)
  values : List String
  awaiting : Option OptionName
  ended : Bool
  deriving DecidableEq, Repr

namespace Arguments

/-- No arguments. -/
def start : Arguments := ⟨[], [], none, false⟩

/-- The value of an option. -/
def get? (a : Arguments) (o : OptionName) : Option String :=
  a.options.lookup o

/-- Gives an option its value. An option that has one already is refused. -/
def set (a : Arguments) (o : OptionName) (value : String) : Option Arguments :=
  if (a.get? o).isSome then none
  else some { a with options := (o, value) :: a.options, awaiting := none }

/-- Reads short options that share a dash. -/
def short (forms : List OptionForm) (a : Arguments) : List Char → Option Arguments
  | [] => some a
  | c :: cs =>
    match forms.find? fun f => f.short = some c with
    | none => none
    | some f =>
      if f.hasValue then
        match cs with
        | [] => if (a.get? f.name).isSome then none else some { a with awaiting := some f.name }
        | '=' :: value => a.set f.name (String.ofList value)
        | value => a.set f.name (String.ofList value)
      else (a.set f.name "").bind fun b => short forms b cs

/-- Reads a long option without its dashes. -/
def long (forms : List OptionForm) (a : Arguments) (text : List Char) : Option Arguments :=
  let name := String.ofList (text.takeWhile (· ≠ '='))
  match forms.find? fun f => f.long = name with
  | none => none
  | some f =>
    match f.hasValue, text.dropWhile (· ≠ '=') with
    | true, '=' :: value => a.set f.name (String.ofList value)
    | true, _ =>
      if (a.get? f.name).isSome then none else some { a with awaiting := some f.name }
    | false, [] => a.set f.name ""
    | false, _ => none

/-- Reads one argument. -/
def step (forms : List OptionForm) (a : Arguments) (arg : String) : Option Arguments :=
  if a.ended then some { a with values := a.values ++ [arg] }
  else
    match a.awaiting, arg.toList with
    | some _, '-' :: _ :: _ => none
    | some o, _ => a.set o arg
    | none, ['-', '-'] => some { a with ended := true }
    | none, '-' :: '-' :: text => a.long forms text
    | none, '-' :: c :: cs => a.short forms (c :: cs)
    | none, _ => some { a with values := a.values ++ [arg] }

/-- Reads the arguments behind a subcommand. -/
def readAll (forms : List OptionForm) (args : List String) : Option Arguments := do
  let a ← args.foldlM (step forms) start
  if a.awaiting.isNone then some a else none

/-- Reads the arguments up to the first value, which names the subcommand. -/
def readFront (a : Arguments) : List String → Option (Arguments × String × List String)
  | [] => none
  | arg :: rest =>
    match a.step outputForms arg with
    | none => none
    | some b =>
      if b.ended then none
      else
        match b.values with
        | [] => readFront b rest
        | name :: _ => some (a, name, rest)

end Arguments

/-! ## Commands -/

/-- What the program is asked to do. -/
inductive Command where
  /-- Compile a proximity expression with the analyzer of some name. -/
  | prox (expression : String) (params : ProximityParams) (analyzer : String)
  /-- Compile a capitalization expression with the analyzer of some name. -/
  | cap (expression : String) (params : CapitalizationParams) (analyzer : String)
  /-- Compile the request in a file. -/
  | document (path : String)
  /-- Show the classes of some tokens. -/
  | classify (tokens : List String)
  deriving DecidableEq, Repr

/-- A command with the options for its output. -/
structure Invocation where
  command : Command
  format : Format
  noColour : Bool
  verbose : Bool
  deriving DecidableEq, Repr

/-- The single value of a command. -/
def Arguments.single? (a : Arguments) : Option String :=
  match a.values with
  | [v] => some v
  | _ => none

/-- The command of a subcommand with its arguments. -/
def Subcommand.command? (s : Subcommand) (a : Arguments) : Option Command :=
  let analyzer := (a.get? .analyzer).getD Analysis.defaultName
  match s with
  | prox => do
    let expression ← a.single?
    let field ← a.get? .field
    let mode ← (Mode.parse ((a.get? .mode).getD "loose")).toOption
    return .prox expression ⟨field, a.get? .minimum, mode⟩ analyzer
  | cap => do
    let expression ← a.single?
    let field ← a.get? .field
    return .cap expression ⟨field⟩ analyzer
  | request => do
    let path ← a.single?
    if path.isEmpty then none else some (.document path)
  | classify => if a.values.isEmpty then none else some (.classify a.values)

/-- The format that some arguments ask for, if they do. -/
def Arguments.format? (a : Arguments) : Option (Option Format) :=
  match a.get? .format with
  | none => some none
  | some name => (Format.names.lookup name).map some

/-- Reads a command line. -/
def Invocation.parse (args : List String) : Option Invocation := do
  let (front, name, rest) ← Arguments.start.readFront args
  let s ← Subcommand.names.lookup name
  let back ← Arguments.readAll s.forms rest
  let frontFormat ← front.format?
  let backFormat ← back.format?
  let command ← s.command? back
  let given (o : OptionName) := (front.get? o).isSome || (back.get? o).isSome
  return ⟨command, (backFormat.or frontFormat).getD .line, given .noColour, given .verbose⟩

end Proximity.Cli
