import Proximity.Capitalization.Listing
import Proximity.Cli.Arguments
import Proximity.Cli.Filter
import Proximity.Request.Document

/-!
# Running the program

What the program prints for a command line: its exit code and what goes to both outputs. Everything
that it has to know of its surroundings stands in a `Host`.
-/
namespace Proximity.Cli
set_option autoImplicit false

/-- The surroundings of the program: the filter for events, whether the output may have colours, and
the octets of a file or why they cannot be read. The file `-` is the input of the program. -/
structure Host where
  logSpec : Option String
  colours : Bool
  contents : String → Except String ByteArray

/-- What the program leaves behind. -/
structure Report where
  code : UInt32
  output : String
  errors : String
  deriving DecidableEq, Repr

/-- Why the program fails: what it was doing, and the cause where it is told apart. -/
structure Failure where
  title : String
  cause : Option String
  deriving DecidableEq, Repr

/-- The text of a failure. -/
def Failure.text (f : Failure) : String :=
  "Error: " ++ f.title ++ "\n" ++
    match f.cause with
    | none => ""
    | some cause => "\nCaused by:\n    " ++ indented cause ++ "\n"

/-- What is printed when a command line is refused. -/
def usage : String :=
  "Usage: proxq [--format line|tree|json] [--no-color] [-v] <prox|cap|request|classify> ...\n"

/-- Compiles the expression of a command with the analyzer of some name. The events are the report of the
parameters and those of the compilation. -/
def compileExpression (expression name : String) (params : Event)
    (compile : String → Analyzer → Outcome Node) (trace : String → Analyzer → Traced Node) :
    Except Failure Node × List Event :=
  match Analysis.named? name with
  | none =>
    (.error ⟨"unknown analyzer: " ++ name ++ " (expected standard or whitespace)", none⟩, [])
  | some analyzer =>
    let result := (compile expression analyzer).mapError fun e =>
      ⟨"cannot compile " ++ Text.quoted expression, some e.message⟩
    (result, params :: (trace expression analyzer).events)

/-- The text of a request file. -/
def documentText (host : Host) (path : String) : Except Failure String :=
  let title :=
    if path = "-" then "cannot read request from stdin" else "cannot read " ++ path
  match host.contents path with
  | .error cause => .error ⟨title, some cause⟩
  | .ok octets =>
    match String.fromUTF8? octets with
    | some text => .ok text
    | none => .error ⟨title, some "stream did not contain valid UTF-8"⟩

/-- The request in a file. -/
def documentRequest (host : Host) (path : String) : Except Failure Request := do
  let text ← documentText host path
  match Request.ofText text with
  | .ok r => return r
  | .error e => throw ⟨"cannot read request " ++ path, some e.message⟩

/-- Compiles the request in a file, with the events of its compilation. -/
def compileDocument (host : Host) (path : String) : Except Failure Node × List Event :=
  match documentRequest host path with
  | .error f => (.error f, [])
  | .ok r => (r.compile.mapError fun e => ⟨e.message, none⟩, r.trace.events)

namespace Invocation

/-- The output of a command, with the events up to its end. -/
def output (i : Invocation) (host : Host) : Except Failure String × List Event :=
  let colours := host.colours && !i.noColour
  let shown (compiled : Except Failure Node × List Event) : Except Failure String × List Event :=
    (compiled.1.map fun node => node.render i.format colours, compiled.2)
  match i.command with
  | .prox expression params name =>
    shown (compileExpression expression name (proximityParamsEvent params) params.compile
      params.trace)
  | .cap expression params name =>
    shown (compileExpression expression name (capitalizationParamsEvent params) params.compile
      params.trace)
  | .document path => shown (compileDocument host path)
  | .classify tokens => (.ok (Capitalization.listing tokens colours), [])

/-- Runs a command. -/
def run (i : Invocation) (host : Host) : Report :=
  let spec := host.logSpec.getD (if i.verbose then "debug" else "warn")
  let (filter, warnings) := Filter.parse spec
  let (result, events) := i.output host
  let log := String.join warnings ++ String.join ((events.filter filter.reports).map Event.line)
  match result with
  | .ok output => ⟨0, output, log⟩
  | .error f => ⟨1, "", log ++ f.text⟩

end Invocation

/-- Runs a command line. -/
def run (host : Host) (args : List String) : Report :=
  match Invocation.parse args with
  | some i => i.run host
  | none => ⟨2, "", usage⟩

end Proximity.Cli
