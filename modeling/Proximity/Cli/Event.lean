import Proximity.Query.Line
import Proximity.Request.Basic
import Proximity.Text.Quoted

/-!
# What happens during a compilation

The steps of a compilation can be reported. A `Traced` computation has an outcome and the events up to
the step that fails, in the order in which they happen. Parsing and compiling are such computations, with
the outcomes that they have without reports.
-/
namespace Proximity.Cli
set_option autoImplicit false

/-- How much an event matters. -/
inductive Level where
  | error
  | warn
  | info
  | debug
  | trace
  deriving DecidableEq, Repr

namespace Level

/-- The levels by their names. -/
def names : List (String × Level) :=
  [("error", error), ("warn", warn), ("info", info), ("debug", debug), ("trace", trace)]

/-- The name of a level in capitals, in five columns. -/
def column : Level → String
  | error => "ERROR"
  | warn => "WARN "
  | info => "INFO "
  | debug => "DEBUG"
  | trace => "TRACE"

/-- The position of a level; a filter lets every level through up to its own. -/
def rank : Level → Nat
  | error => 1
  | warn => 2
  | info => 3
  | debug => 4
  | trace => 5

end Level

/-- The part of the program that an event comes from. -/
inductive Origin where
  | program
  | analysis
  | expression
  | compiler
  | capitalization
  deriving DecidableEq, Repr

/-- The name of a part in filters and reports. -/
def Origin.path : Origin → String
  | program => "proxq"
  | analysis => "proxq::analysis"
  | expression => "proxq::query::parser"
  | compiler => "proxq::query::compiler"
  | capitalization => "proxq::query::capitalization"

/-- Something that happened. -/
structure Event where
  level : Level
  origin : Origin
  message : String
  deriving DecidableEq, Repr

/-- A mode in reports. -/
def modeTitle : Mode → String
  | .phraseAware => "PhraseAware"
  | .looseTerms => "LooseTerms"

/-- The report of an analysis that gave some terms. -/
def analyzedEvent (field text : String) (terms : List String) : Event :=
  ⟨.debug, .analysis,
    "analyzed " ++ Text.quoted text ++ " on " ++ field ++ " -> " ++ Text.quotedList terms⟩

/-- The report of an analysis, if it does not fail. -/
def analysisEvents (field text : String) (analyzer : Analyzer) : List Event :=
  match analyzer field text with
  | .ok terms => [analyzedEvent field text terms]
  | .error _ => []

/-- The report of the parts of an expression. -/
def splitEvent (s : Split) : Event :=
  ⟨.debug, .expression,
    "left: " ++ Text.quoted s.left ++ "; op: " ++ Text.quoted s.operator ++ "; right: "
      ++ Text.quoted s.right⟩

/-- The report of the clauses of a loose tree, if a query is one. -/
def clauseEvents (percent : UInt32) : Node → List Event
  | .choice clauses minimum =>
    [⟨.debug, .compiler,
      "clauses: " ++ toString clauses.length ++ ", mm: " ++ toString percent.toNat ++ "% -> "
        ++ toString minimum.toNat⟩]
  | _ => []

/-- The report of a compiled proximity expression. -/
def compiledEvent (mode : Mode) (node : Node) : Event :=
  ⟨.trace, .compiler, "compiled " ++ modeTitle mode ++ " -> " ++ node.line⟩

/-- The report of a keyword and its argument. -/
def applicationEvent (a : Application) (c : Capitalization) : Event :=
  ⟨.debug, .capitalization,
    "op: " ++ Text.quoted c.keyword ++ ", term: " ++ Text.quoted a.argument⟩

/-- The report of a compiled capitalization expression. -/
def capitalizedEvent (raw : String) (node : Node) : Event :=
  ⟨.trace, .capitalization, "compiled " ++ Text.quoted raw ++ " -> " ++ node.line⟩

/-- The report of the parameters of a proximity expression on the command line. -/
def proximityParamsEvent (p : ProximityParams) : Event :=
  let minimum := match p.minimum with
    | some m => "Some(" ++ Text.quoted m ++ ")"
    | none => "None"
  ⟨.info, .program,
    "qf: " ++ p.field ++ "; mm: " ++ minimum ++ "; mode: " ++ modeTitle p.mode⟩

/-- The report of the parameters of a capitalization expression on the command line. -/
def capitalizationParamsEvent (p : CapitalizationParams) : Event :=
  ⟨.info, .program, "qf: " ++ p.field⟩

/-! ## Computations with their events -/

/-- A computation with what happens in it, up to the step that fails. -/
structure Traced (α : Type) where
  outcome : Outcome α
  events : List Event

namespace Traced
variable {α β : Type}

/-- A step that reports something if it succeeds. -/
def step (x : Outcome α) (report : α → List Event) : Traced α :=
  match x with
  | .ok a => ⟨.ok a, report a⟩
  | .error e => ⟨.error e, []⟩

/-- A step that reports nothing. -/
def silent (x : Outcome α) : Traced α :=
  ⟨x, []⟩

/-- One computation after another, which does not take place if the first one fails. -/
def andThen (x : Traced α) (f : α → Traced β) : Traced β :=
  match x.outcome with
  | .ok a => ⟨(f a).outcome, x.events ++ (f a).events⟩
  | .error e => ⟨.error e, x.events⟩

instance : Monad Traced where
  pure a := silent (.ok a)
  bind := andThen

@[simp] theorem outcome_step (x : Outcome α) (report : α → List Event) : (step x report).outcome = x := by
  cases x <;> rfl

@[simp] theorem outcome_silent (x : Outcome α) : (silent x).outcome = x := rfl

@[simp] theorem outcome_pure (a : α) : (pure a : Traced α).outcome = .ok a := rfl

@[simp] theorem outcome_bind (x : Traced α) (f : α → Traced β) :
    (x >>= f).outcome = x.outcome >>= fun a => (f a).outcome := by
  show (andThen x f).outcome = _
  unfold andThen
  cases x.outcome <;> rfl

theorem events_bind (x : Traced α) (f : α → Traced β) :
    (x >>= f).events = x.events ++ match x.outcome with
      | .ok a => (f a).events
      | .error _ => [] := by
  show (andThen x f).events = _
  unfold andThen
  cases x.outcome with
  | ok a => rfl
  | error e => exact (List.append_nil _).symm

end Traced

end Proximity.Cli

namespace Proximity
open Cli

/-- Analyzes one side of an expression. An analysis is reported also if it gives no terms. -/
def Operand.traceClassify (field text : String) (analyzer : Analyzer) (phrases : Bool) :
    Traced Operand :=
  ⟨Operand.classify field text analyzer phrases,
    analysisEvents field (analyzedText phrases text) analyzer⟩

/-- Parses an expression. -/
def Expression.traceParse (field raw : String) (analyzer : Analyzer) (phrases : Bool) :
    Traced Expression := do
  let split ← Traced.step (Split.ofExpression raw) fun s => [splitEvent s]
  let left ← Operand.traceClassify field split.left analyzer phrases
  let right ← Operand.traceClassify field split.right analyzer phrases
  let operator ← Traced.silent (Operator.parse split.operator)
  return ⟨left, operator, right⟩

/-- Parses and compiles a proximity expression. -/
def traceProximity (field raw : String) (analyzer : Analyzer) (mode : Mode) (percent : UInt32) :
    Traced Node := do
  let e ← Expression.traceParse field raw analyzer mode.recognizesPhrases
  Traced.step (e.compile field mode percent) fun node =>
    clauseEvents percent node ++ [compiledEvent mode node]

/-- Analyzes the argument of an application. -/
def Application.traceTerm (a : Application) (field : String) (analyzer : Analyzer) : Traced String :=
  ⟨a.term field analyzer, analysisEvents field a.argument analyzer⟩

/-- Parses and compiles a capitalization expression. -/
def traceCapitalization (field raw : String) (analyzer : Analyzer) : Traced Node := do
  let a ← Traced.silent (Application.parse raw)
  let c ← Traced.step a.kind fun c => [applicationEvent a c]
  let t ← a.traceTerm field analyzer
  let e : CapitalizationExpression := ⟨c, t⟩
  Traced.step (.ok (e.query field)) fun node => [capitalizedEvent raw node]

/-- Compiles an expression with its parameters. -/
def ProximityParams.trace (p : ProximityParams) (raw : String) (analyzer : Analyzer) :
    Traced Node := do
  Traced.silent (requireField p.field)
  let percent ← Traced.silent p.percent
  traceProximity p.field raw analyzer p.mode percent

/-- Compiles an expression with its parameters. -/
def CapitalizationParams.trace (p : CapitalizationParams) (raw : String) (analyzer : Analyzer) :
    Traced Node := do
  Traced.silent (requireField p.field)
  traceCapitalization p.field raw analyzer

/-- Compiles a request with an analyzer that takes the place of the named one. -/
def Request.traceWith (r : Request) (analyzer : Analyzer) : Traced Node :=
  match r with
  | .proximity expression params _ => params.trace expression analyzer
  | .capitalization expression params _ => params.trace expression analyzer

/-- Compiles a request. -/
def Request.trace (r : Request) : Traced Node :=
  match Analysis.named? r.analyzerName with
  | some analyzer => r.traceWith analyzer
  | none => .silent (.error (.request (.unknownAnalyzer r.analyzerName)))

end Proximity
