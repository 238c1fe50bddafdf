import Proximity.Cli.Run
import Proximity.Proofs.Cli.Arguments
import Proximity.Proofs.Request.Document
import Proximity.Proofs.Request.Outcome

/-! The commands for expressions and the command for documents lead to the same queries: a request on the command line
and a document that holds it are printed alike or refused alike.

* `commandLine`, `documentLine`: the command lines for a request and for a document.
* `Report.Shows`: what a report shows of an output; `run_command` and `run_document` say it of both.
* `front_ends_agree`: what is printed for the one is printed for the other. -/
namespace Proximity
set_option autoImplicit false

theorem Mode.parse_name (mode : Mode) : Mode.parse mode.name = .ok mode := by
  cases mode <;> decide

namespace Cli

/-! ## Command lines -/

/-- The options for the output of a query. -/
def outputOptions (format : Format) (noColour : Bool) : List (OptionName × String) :=
  (.format, format.name) :: if noColour then [(.noColour, "")] else []

/-- The command for a request. A command names its analyzer, the default one where nothing else is said. -/
def commandOf : Request → Command
  | .proximity q params analyzer => .prox q params (analyzer.getD Analysis.defaultName)
  | .capitalization q params analyzer => .cap q params (analyzer.getD Analysis.defaultName)

/-- The subcommand for a request. -/
def subcommandOf : Request → Subcommand
  | .proximity .. => .prox
  | .capitalization .. => .cap

/-- The options for a request. -/
def optionsOf : Request → List (OptionName × String)
  | .proximity _ params analyzer =>
    (.field, params.field) :: (.mode, params.mode.name) ::
      ((params.minimum.toList.map (OptionName.minimum, ·)) ++ analyzer.toList.map (OptionName.analyzer, ·))
  | .capitalization _ params analyzer =>
    (.field, params.field) :: analyzer.toList.map (OptionName.analyzer, ·)

/-- The command line for a request. -/
def commandLine (r : Request) (format : Format) (noColour : Bool) : List String :=
  (subcommandOf r).line (outputOptions format noColour ++ optionsOf r) r.expression

/-- The command line for a document. -/
def documentLine (path : String) (format : Format) (noColour : Bool) : List String :=
  Subcommand.request.line (outputOptions format noColour) path

theorem accepted_output {s : Subcommand} {format : Format} {noColour : Bool} :
    ∀ o ∈ outputOptions format noColour, Accepted s.forms o := by
  have hformat : Accepted s.forms (.format, format.name) := ⟨by cases s <;> rfl, nofun⟩
  have hcolour : Accepted s.forms (.noColour, "") := ⟨by cases s <;> rfl, fun _ => rfl⟩
  cases noColour <;> simp [outputOptions, hformat, hcolour]

theorem accepted_optionsOf (r : Request) : ∀ o ∈ optionsOf r, Accepted (subcommandOf r).forms o := by
  have hfield : ∀ value, Accepted (subcommandOf r).forms (.field, value) := fun _ => ⟨by cases r <;> rfl, nofun⟩
  have hanalyzer : ∀ value, Accepted (subcommandOf r).forms (.analyzer, value) := fun _ => ⟨by cases r <;> rfl, nofun⟩
  cases r with
  | proximity q params analyzer =>
    have hmode : ∀ value, Accepted Subcommand.prox.forms (.mode, value) := fun _ => ⟨rfl, nofun⟩
    have hminimum : ∀ value, Accepted Subcommand.prox.forms (.minimum, value) := fun _ => ⟨rfl, nofun⟩
    rw [optionsOf, List.forall_mem_cons, List.forall_mem_cons, List.forall_mem_append, List.forall_mem_map,
      List.forall_mem_map]
    exact ⟨hfield _, hmode _, fun value _ => hminimum value, fun value _ => hanalyzer value⟩
  | capitalization q params analyzer =>
    rw [optionsOf, List.forall_mem_cons, List.forall_mem_map]
    exact ⟨hfield _, fun value _ => hanalyzer value⟩

theorem nodup_options (r : Request) (format : Format) (noColour : Bool) :
    ((outputOptions format noColour ++ optionsOf r).map Prod.fst).Nodup := by
  rcases r with ⟨q, ⟨field, _ | minimum, mode⟩, _ | analyzer⟩ | ⟨q, ⟨field⟩, _ | analyzer⟩ <;> cases noColour <;>
    simp [optionsOf, outputOptions]

theorem lookup_map_toList (o o' : OptionName) (value : Option String) :
    (value.toList.map (o', ·)).lookup o = if o = o' then value else none := by
  cases value <;> simp [lookup_cons_ite]

theorem command_optionsOf (r : Request) {a : Arguments} (hvalues : a.values = [r.expression])
    (hget : ∀ o ∈ [OptionName.field, .mode, .minimum, .analyzer], a.get? o = (optionsOf r).lookup o) :
    (subcommandOf r).command? a = some (commandOf r) := by
  have hsingle : a.single? = some r.expression := by rw [Arguments.single?, hvalues]
  simp only [List.forall_mem_cons] at hget
  obtain ⟨hfield, hmode, hminimum, hanalyzer, -⟩ := hget
  cases r with
  | proximity q params analyzer =>
    simp only [optionsOf, lookup_cons_ite, List.lookup_append, lookup_map_toList] at hfield hmode hminimum hanalyzer
    simp [Subcommand.command?, subcommandOf, hsingle, Request.expression, hfield, hmode, hminimum, hanalyzer,
      Mode.parse_name, commandOf, Except.toOption]
  | capitalization q params analyzer =>
    simp only [optionsOf, lookup_cons_ite, lookup_map_toList] at hfield hanalyzer
    simp [Subcommand.command?, subcommandOf, hsingle, Request.expression, hfield, hanalyzer, commandOf]

theorem parse_commandLine (r : Request) (format : Format) (noColour : Bool) :
    Invocation.parse (commandLine r format noColour) = some ⟨commandOf r, format, noColour, false⟩ := by
  have hos : ∀ o ∈ outputOptions format noColour ++ optionsOf r, Accepted (subcommandOf r).forms o := by
    intro o ho
    exact (List.mem_append.mp ho).elim (accepted_output o) (accepted_optionsOf r o)
  have hcommand : ∀ a : Arguments, a.values = [r.expression] →
      (∀ o, a.get? o = (outputOptions format noColour ++ optionsOf r).lookup o) →
        (subcommandOf r).command? a = some (commandOf r) := by
    intro a hvalues hget
    refine command_optionsOf r hvalues fun o ho => (hget o).trans ?_
    have hnone : (outputOptions format noColour).lookup o = none := by
      simp only [List.mem_cons, List.not_mem_nil, or_false] at ho
      rcases ho with rfl | rfl | rfl | rfl <;> cases noColour <;> rfl
    rw [List.lookup_append, hnone, Option.none_or]
  have hrest : (optionsOf r).lookup .noColour = none ∧ (optionsOf r).lookup .verbose = none := by
    cases r <;> simp [optionsOf, lookup_cons_ite, List.lookup_append, lookup_map_toList]
  rw [commandLine, Invocation.parse_line hos (nodup_options r format noColour) hcommand rfl]
  rw [List.lookup_append, List.lookup_append, hrest.1, hrest.2]
  cases noColour <;> rfl

/-- Where nothing but the field is said, the defaults are meant. -/
theorem parse_onlyField (q field : String) (format : Format) :
    Invocation.parse (Subcommand.prox.line [(.format, format.name), (.field, field)] q) =
      Invocation.parse (commandLine (.proximity q (.ofField field) none) format false) := by
  have hos : ∀ o ∈ [(OptionName.format, format.name), (.field, field)], Accepted Subcommand.prox.forms o := by
    rw [List.forall_mem_cons, List.forall_mem_singleton]
    exact ⟨@accepted_output .prox format false _ (List.mem_cons_self ..),
      accepted_optionsOf (.proximity q (.ofField field) none) _ (List.mem_cons_self ..)⟩
  have hcommand : ∀ a : Arguments, a.values = [q] →
      (∀ o, a.get? o = [(OptionName.format, format.name), (.field, field)].lookup o) →
        Subcommand.prox.command? a = some (.prox q (.ofField field) Analysis.defaultName) := by
    intro a hvalues hget
    have hmode : Mode.parse "loose" = .ok .standard := by decide
    simp [Subcommand.command?, Arguments.single?, hvalues, hget, lookup_cons_ite, hmode, ProximityParams.ofField,
      Except.toOption]
  rw [parse_commandLine, Invocation.parse_line hos (by simp) hcommand rfl]
  rfl

theorem parse_documentLine {path : String} (h : path ≠ "") (format : Format) (noColour : Bool) :
    Invocation.parse (documentLine path format noColour) = some ⟨.document path, format, noColour, false⟩ := by
  have hnodup : ((outputOptions format noColour).map Prod.fst).Nodup := by
    cases noColour <;> simp [outputOptions]
  have hcommand : ∀ a : Arguments, a.values = [path] → (∀ o, a.get? o = (outputOptions format noColour).lookup o) →
      Subcommand.request.command? a = some (.document path) := by
    intro a hvalues _
    simp [Subcommand.command?, Arguments.single?, hvalues, h]
  rw [documentLine, Invocation.parse_line accepted_output hnodup hcommand rfl]
  cases noColour <;> rfl

/-! ## Reports -/

/-- What the program prints for a request, if it succeeds. -/
def printed (r : Request) (format : Format) (colours : Bool) : Option String :=
  r.compile.toOption.map fun node => node.render format colours

/-- A report of an output, or of a failure without any output. -/
def Report.Shows (report : Report) : Option String → Prop
  | some output => report.code = 0 ∧ report.output = output
  | none => report.code ≠ 0 ∧ report.output = ""

/-- Two reports of the same output, or of two failures without any output. -/
def Report.Agree (report report' : Report) : Prop :=
  (report.code = 0 ∧ report'.code = 0 ∧ report.output = report'.output) ∨
    (report.code ≠ 0 ∧ report'.code ≠ 0 ∧ report.output = "" ∧ report'.output = "")

theorem Report.Shows.agree {report report' : Report} {output : Option String} (h : report.Shows output)
    (h' : report'.Shows output) : report.Agree report' := by
  cases output with
  | some output => exact .inl ⟨h.1, h'.1, h.2.trans h'.2.symm⟩
  | none => exact .inr ⟨h.1, h'.1, h.2, h'.2⟩

theorem Invocation.run_shows (i : Invocation) (host : Host) : (i.run host).Shows (i.output host).1.toOption := by
  rcases h : i.output host with ⟨f | output, events⟩
  · simp [run, h, Except.toOption, Report.Shows]
  · simp [run, h, Except.toOption, Report.Shows]

theorem ok_bind {α β ε : Type} (a : α) (f : α → Except ε β) : (Except.ok a >>= f) = f a := rfl

theorem toOption_map {α β ε : Type} (f : α → β) (x : Except ε α) : (x.map f).toOption = x.toOption.map f := by
  cases x <;> rfl

theorem toOption_mapError {α ε ε' : Type} (f : ε → ε') (x : Except ε α) : (x.mapError f).toOption = x.toOption := by
  cases x <;> rfl

/-- The expression of a command is compiled if its analyzer is known. -/
theorem compileExpression_toOption (expression name : String) (params : Event)
    (compile : String → Analyzer → Outcome Node) (trace : String → Analyzer → Traced Node) :
    (compileExpression expression name params compile trace).1.toOption =
      (Analysis.named? name).bind fun analyzer => (compile expression analyzer).toOption := by
  unfold compileExpression
  cases Analysis.named? name with
  | none => rfl
  | some analyzer => exact toOption_mapError _ _

/-- A request is compiled if its analyzer is known. -/
theorem compile_toOption (r : Request) :
    r.compile.toOption = (Analysis.named? r.analyzerName).bind fun analyzer => (r.compileWith analyzer).toOption := by
  unfold Request.compile
  cases Analysis.named? r.analyzerName <;> rfl

theorem compileDocument_toOption {host : Host} {path : String} {r : Request} (h : documentRequest host path = .ok r) :
    (compileDocument host path).1.toOption = r.compile.toOption := by
  rw [compileDocument, h]
  exact toOption_mapError _ _

theorem documentText_toUTF8 {host : Host} {path text : String} (h : host.contents path = .ok text.toUTF8) :
    documentText host path = .ok text := by
  have hutf8 : String.fromUTF8? text.toUTF8 = some text := by
    unfold String.fromUTF8?
    split
    · rfl
    · exact absurd text.isValidUTF8 ‹_›
  simp only [documentText, h, hutf8]

theorem documentRequest_toUTF8 {host : Host} {path text : String} {r : Request}
    (hcontents : host.contents path = .ok text.toUTF8) (htext : Request.ofText text = .ok r) :
    documentRequest host path = .ok r := by
  rw [documentRequest, documentText_toUTF8 hcontents, ok_bind, htext]
  rfl

/-- A command line that asks for a command with its output in some format, with or without colours. -/
def Asks (args : List String) (command : Command) (format : Format) (noColour : Bool) : Prop :=
  ∃ verbose, Invocation.parse args = some ⟨command, format, noColour, verbose⟩

/-- The output of the command for a request. The command looks its analyzer up and compiles with its parameters, the
request does both with what it holds. -/
theorem output_commandOf (host : Host) (r : Request) (format : Format) (noColour verbose : Bool) :
    (Invocation.output ⟨commandOf r, format, noColour, verbose⟩ host).1.toOption =
      printed r format (host.colours && !noColour) := by
  rw [printed, compile_toOption]
  cases r with
  | proximity q params analyzer =>
    simp only [Invocation.output, commandOf, toOption_map, compileExpression_toOption, Request.analyzerName,
      Request.compileWith]
  | capitalization q params analyzer =>
    simp only [Invocation.output, commandOf, toOption_map, compileExpression_toOption, Request.analyzerName,
      Request.compileWith]

theorem run_command {host : Host} {args : List String} {r : Request} {format : Format} {noColour : Bool}
    (hargs : Asks args (commandOf r) format noColour) :
    (run host args).Shows (printed r format (host.colours && !noColour)) := by
  obtain ⟨verbose, hargs⟩ := hargs
  have hshows := Invocation.run_shows ⟨commandOf r, format, noColour, verbose⟩ host
  rw [output_commandOf] at hshows
  rw [run, hargs]
  exact hshows

theorem run_document {host : Host} {args : List String} {r : Request} {format : Format} {noColour : Bool}
    {path text : String} (hargs : Asks args (.document path) format noColour)
    (hcontents : host.contents path = .ok text.toUTF8) (htext : Request.ofText text = .ok r) :
    (run host args).Shows (printed r format (host.colours && !noColour)) := by
  obtain ⟨verbose, hargs⟩ := hargs
  have hshows := Invocation.run_shows ⟨.document path, format, noColour, verbose⟩ host
  simp only [Invocation.output, toOption_map,
    compileDocument_toOption (documentRequest_toUTF8 hcontents htext)] at hshows
  rw [run, hargs]
  exact hshows

/-- Requests on the command line and documents that hold them are printed alike or refused alike, as the request is
compiled or refused: on the command lines and documents of `commandLine`, `documentLine` and `Request.toJson`, and on
all others that ask for the same. -/
theorem front_ends_agree (host : Host) (r : Request) (format : Format) (noColour : Bool) :
    (∀ path, path ≠ "" → host.contents path = .ok r.toJson.text.toUTF8 →
      (run host (commandLine r format noColour)).Agree (run host (documentLine path format noColour))) ∧
    (∀ args args' path text, Asks args (commandOf r) format noColour →
      Asks args' (.document path) format noColour → host.contents path = .ok text.toUTF8 →
        Request.ofText text = .ok r → (run host args).Agree (run host args')) ∧
    (∀ args, Asks args (commandOf r) format noColour →
      (run host args).Shows (printed r format (host.colours && !noColour))) ∧
    Asks (commandLine r format noColour) (commandOf r) format noColour ∧
    (∀ path, path ≠ "" → Asks (documentLine path format noColour) (.document path) format noColour) ∧
    ∀ text, Json.read text = .ok r.toJson → Request.ofText text = .ok r := by
  have hcommand : Asks (commandLine r format noColour) (commandOf r) format noColour :=
    ⟨false, parse_commandLine r format noColour⟩
  have hdocument : ∀ path, path ≠ "" → Asks (documentLine path format noColour) (.document path) format noColour :=
    fun path hpath => ⟨false, parse_documentLine hpath format noColour⟩
  refine ⟨fun path hpath hcontents => ?_, fun args args' path text hargs hargs' hcontents htext => ?_,
    fun args hargs => run_command hargs, hcommand, hdocument, fun text hread => ?_⟩
  · exact (run_command hcommand).agree (run_document (hdocument path hpath) hcontents r.ofText_toJson)
  · exact (run_command hargs).agree (run_document hargs' hcontents htext)
  · rw [Request.toJson_eq] at hread
    exact (Request.ofText_eq_ok_iff text r).mpr ⟨_, hread, Request.ofJson_object_iff.mpr r.heldBy_members⟩

/-- A document for an analyzer that does not exist, and an array on the input for values that look like options. -/
theorem front_ends_agree_unknown_and_array :
    (∃ host : Host, (run host ["cap", "--format=json", "--no-color", "--field=t", "--analyzer=", "--", "\"\\"]).Agree
        (run host ["request", "--format=json", "--no-color", "--", "-"]) ∧
      host.contents "-" =
        .ok ("\x7b\n  \"parser\": \"capitalization\",\n  \"q\": \"\\\"\\\\\",\n  \"qf\": \"t\",\n"
          ++ "  \"analyzer\": \"\"\n\x7d").toUTF8) ∧
    ∃ host : Host, (run host ["--format", "tree", "prox", "-f=-f=\"", "-mPHRASE", "--mm", "50%", "-awhitespace", "--",
        "-\"a\" w1 b\\"]).Agree (run host ["-v", "request", "-", "--format", "tree"]) ∧
      host.contents "-" =
        .ok "[\"proximity\", \"-\\\"a\\\" w1 b\\\\\", \"-f=\\\"\", \"50%\", \"phrase\", \"whitespace\"]".toUTF8 := by
  constructor
  · have htext : (Request.capitalization "\"\\" ⟨"t"⟩ (some "")).toJson.text =
        "\x7b\n  \"parser\": \"capitalization\",\n  \"q\": \"\\\"\\\\\",\n  \"qf\": \"t\",\n"
          ++ "  \"analyzer\": \"\"\n\x7d" := rfl
    refine ⟨⟨none, true, fun _ => .ok (Request.capitalization "\"\\" ⟨"t"⟩ (some "")).toJson.text.toUTF8⟩, ?_, ?_⟩
    · exact (front_ends_agree _ (.capitalization "\"\\" ⟨"t"⟩ (some "")) .json true).1 "-" (by decide) rfl
    · rw [htext]
  · refine ⟨⟨none, true, fun _ => .ok _⟩, ?_, rfl⟩
    obtain ⟨-, hall, -⟩ := front_ends_agree ⟨none, true, fun _ =>
        .ok "[\"proximity\", \"-\\\"a\\\" w1 b\\\\\", \"-f=\\\"\", \"50%\", \"phrase\", \"whitespace\"]".toUTF8⟩
      (.proximity "-\"a\" w1 b\\" ⟨"-f=\"", some "50%", .phraseAware⟩ (some "whitespace")) .tree false
    exact hall _ _ "-" _ ⟨false, rfl⟩ ⟨true, rfl⟩ rfl rfl

end Cli

end Proximity
