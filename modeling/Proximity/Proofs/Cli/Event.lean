import Proximity.Proofs.Cli.FrontEnds

/-! What is reported of a compilation. The computations that report have the outcomes of those that do not, and the
compiled query is reported last, and only if there is one.

* `Request.outcome_trace`: a traced request is compiled as it is without reports.
* `Traced.Concludes`: the result of a computation is its last event, and all other events are for debugging.
* `succeeds_iff_reported`: a command reports a query exactly if it succeeds in printing one. -/
namespace Proximity
set_option autoImplicit false
open Cli

variable (field raw : String) (analyzer : Analyzer)

/-! ## Outcomes -/

theorem Expression.outcome_traceParse (phrases : Bool) :
    (traceParse field raw analyzer phrases).outcome = parse field raw analyzer phrases := by
  simp only [traceParse, parse, Operand.traceClassify, Traced.outcome_bind, Traced.outcome_step,
    Traced.outcome_silent, Traced.outcome_pure]
  rfl

theorem outcome_traceProximity (mode : Mode) (percent : UInt32) :
    (traceProximity field raw analyzer mode percent).outcome =
      compileProximity field raw analyzer mode percent := by
  simp only [traceProximity, compileProximity, Traced.outcome_bind, Traced.outcome_step,
    Expression.outcome_traceParse]

theorem outcome_traceCapitalization :
    (traceCapitalization field raw analyzer).outcome = compileCapitalization field raw analyzer := by
  simp only [traceCapitalization, compileCapitalization, CapitalizationExpression.parse, Application.traceTerm,
    Traced.outcome_bind, Traced.outcome_step, Traced.outcome_silent, bind_assoc]
  rfl

theorem ProximityParams.outcome_trace (p : ProximityParams) :
    (p.trace raw analyzer).outcome = p.compile raw analyzer := by
  simp only [trace, compile, Traced.outcome_bind, Traced.outcome_silent, outcome_traceProximity]

theorem CapitalizationParams.outcome_trace (p : CapitalizationParams) :
    (p.trace raw analyzer).outcome = p.compile raw analyzer := by
  simp only [trace, compile, Traced.outcome_bind, Traced.outcome_silent, outcome_traceCapitalization]

theorem Request.outcome_traceWith (r : Request) : (r.traceWith analyzer).outcome = r.compileWith analyzer := by
  cases r with
  | proximity q params _ => exact params.outcome_trace q analyzer
  | capitalization q params _ => exact params.outcome_trace q analyzer

theorem Request.outcome_trace (r : Request) : r.trace.outcome = r.compile := by
  unfold trace compile
  cases Analysis.named? r.analyzerName with
  | none => rfl
  | some analyzer => exact r.outcome_traceWith analyzer

/-! ## Events -/

namespace Cli.Traced
variable {α β : Type}

/-- Only reports for debugging. -/
def Quiet (x : Traced α) : Prop := ∀ e ∈ x.events, e.level = .debug

/-- A computation that reports its result last, if it has one, and nothing else than for debugging. -/
def Concludes (x : Traced α) (closing : α → Event) : Prop :=
  match x.outcome with
  | .ok a => ∃ front, x.events = front ++ [closing a] ∧ ∀ e ∈ front, e.level = .debug
  | .error _ => x.Quiet

theorem quiet_silent (x : Outcome α) : (silent x).Quiet := nofun

theorem quiet_step {x : Outcome α} {report : α → List Event} (h : ∀ a, ∀ e ∈ report a, e.level = .debug) :
    (step x report).Quiet := by
  cases x with
  | ok a => exact h a
  | error e => exact nofun

theorem Quiet.bind {x : Traced α} {f : α → Traced β} (hx : x.Quiet) (hf : ∀ a, (f a).Quiet) : (x >>= f).Quiet := by
  unfold Quiet
  rw [events_bind, List.forall_mem_append]
  refine ⟨hx, ?_⟩
  cases x.outcome with
  | ok a => exact hf a
  | error e => exact nofun

theorem concludes_step {x : Outcome α} {report : α → List Event} {closing : α → Event}
    (h : ∀ a, ∃ front, report a = front ++ [closing a] ∧ ∀ e ∈ front, e.level = .debug) :
    (step x report).Concludes closing := by
  cases x with
  | ok a => exact h a
  | error e => exact quiet_silent _

theorem concludes_failure (e : Refusal) (closing : α → Event) : (silent (.error e)).Concludes closing :=
  quiet_silent (.error e)

/-- The events before a computation that reports its result are for debugging too. -/
theorem Concludes.bind {x : Traced α} {f : α → Traced β} {closing : β → Event} (hx : x.Quiet)
    (hf : ∀ a, (f a).Concludes closing) : (x >>= f).Concludes closing := by
  unfold Concludes Quiet
  rw [outcome_bind, events_bind]
  cases x.outcome with
  | error e =>
    show ∀ e ∈ x.events ++ [], e.level = .debug
    rwa [List.append_nil]
  | ok a =>
    have ha := hf a
    unfold Concludes at ha
    show match (f a).outcome with
      | .ok b => ∃ front, x.events ++ (f a).events = front ++ [closing b] ∧ ∀ e ∈ front, e.level = .debug
      | .error _ => ∀ e ∈ x.events ++ (f a).events, e.level = .debug
    cases hfa : (f a).outcome with
    | ok b =>
      rw [hfa] at ha
      obtain ⟨front, hfront, hquiet⟩ := ha
      refine ⟨x.events ++ front, ?_, List.forall_mem_append.mpr ⟨hx, hquiet⟩⟩
      rw [hfront, List.append_assoc]
    | error e =>
      rw [hfa] at ha
      exact List.forall_mem_append.mpr ⟨hx, ha⟩

/-- Where the closing report is a trace, it tells success from failure. -/
theorem Concludes.isOk_iff {x : Traced α} {closing : α → Event} (h : x.Concludes closing)
    (htrace : ∀ a, (closing a).level = .trace) :
    x.outcome.toOption.isSome = true ↔ ∃ e ∈ x.events, e.level = .trace := by
  unfold Concludes at h
  cases hx : x.outcome with
  | ok a =>
    rw [hx] at h
    obtain ⟨front, hfront, -⟩ := h
    refine ⟨fun _ => ⟨closing a, ?_, htrace a⟩, fun _ => rfl⟩
    rw [hfront]
    exact List.mem_append_right front (List.mem_singleton_self _)
  | error f =>
    rw [hx] at h
    refine ⟨nofun, ?_⟩
    rintro ⟨e, he, hlevel⟩
    exact absurd ((h e he).symm.trans hlevel) (by decide)

end Cli.Traced

open Traced

theorem quiet_analysis (text : String) : ∀ e ∈ analysisEvents field text analyzer, e.level = .debug := by
  unfold analysisEvents
  cases analyzer field text with
  | ok terms => exact List.forall_mem_singleton.mpr rfl
  | error e => exact nofun

theorem Expression.quiet_traceParse (phrases : Bool) : (traceParse field raw analyzer phrases).Quiet := by
  refine (quiet_step fun s => List.forall_mem_singleton.mpr rfl).bind fun s => ?_
  have hside (text : String) : (Operand.traceClassify field text analyzer phrases).Quiet :=
    quiet_analysis field analyzer _
  exact (hside s.left).bind fun left => (hside s.right).bind fun right => (quiet_silent _).bind fun _ => quiet_silent _

theorem concludes_traceProximity (mode : Mode) (percent : UInt32) :
    (traceProximity field raw analyzer mode percent).Concludes (compiledEvent mode) := by
  refine .bind (Expression.quiet_traceParse field raw analyzer _) fun e => concludes_step fun node => ⟨_, rfl, ?_⟩
  cases node with
  | choice clauses minimum => exact List.forall_mem_singleton.mpr rfl
  | _ => exact nofun

theorem concludes_traceCapitalization :
    (traceCapitalization field raw analyzer).Concludes (capitalizedEvent raw) := by
  refine .bind (quiet_silent _) fun a => .bind (quiet_step fun c => List.forall_mem_singleton.mpr rfl) fun c => ?_
  have hterm : (a.traceTerm field analyzer).Quiet := quiet_analysis field analyzer _
  exact .bind hterm fun t => concludes_step fun node => ⟨[], rfl, nofun⟩

/-- The report of the query that a request is compiled to. -/
def Request.closing : Request → Node → Event
  | .proximity _ params _ => compiledEvent params.mode
  | .capitalization raw _ _ => capitalizedEvent raw

theorem ProximityParams.concludes_trace (p : ProximityParams) :
    (p.trace raw analyzer).Concludes (compiledEvent p.mode) :=
  .bind (quiet_silent _) fun _ => .bind (quiet_silent _) fun percent =>
    concludes_traceProximity p.field raw analyzer p.mode percent

theorem CapitalizationParams.concludes_trace (p : CapitalizationParams) :
    (p.trace raw analyzer).Concludes (capitalizedEvent raw) :=
  .bind (quiet_silent _) fun _ => concludes_traceCapitalization p.field raw analyzer

theorem Request.concludes_trace (r : Request) : r.trace.Concludes r.closing := by
  unfold trace
  cases Analysis.named? r.analyzerName with
  | none => exact concludes_failure _ _
  | some analyzer =>
    cases r with
    | proximity q params _ => exact params.concludes_trace q analyzer
    | capitalization q params _ => exact params.concludes_trace q analyzer

/-! ## Commands -/

namespace Cli

/-- A query, if there is one, with events of which one is a trace exactly if there is a query. -/
def Tells (compiled : Except Failure Node × List Event) : Prop :=
  compiled.1.toOption.isSome = true ↔ ∃ e ∈ compiled.2, e.level = .trace

section
variable {expression name : String} {params : Event} {compile : String → Analyzer → Outcome Node}
variable {trace : String → Analyzer → Traced Node} {closing : Node → Event}

theorem tells_compileExpression (hparams : params.level ≠ .trace)
    (houtcome : ∀ analyzer, (trace expression analyzer).outcome = compile expression analyzer)
    (hconcludes : ∀ analyzer, (trace expression analyzer).Concludes closing)
    (hclosing : ∀ node, (closing node).level = .trace) :
    Tells (compileExpression expression name params compile trace) := by
  unfold Tells
  rw [compileExpression_toOption]
  unfold compileExpression
  cases Analysis.named? name with
  | none => simp
  | some analyzer =>
    have htells := (hconcludes analyzer).isOk_iff hclosing
    rw [houtcome] at htells
    simp only [Option.bind_some, List.mem_cons, exists_eq_or_imp, hparams, false_or]
    exact htells

end

theorem tells_compileDocument (host : Host) (path : String) : Tells (compileDocument host path) := by
  unfold Tells
  cases h : documentRequest host path with
  | error f => simp [compileDocument, h, Except.toOption]
  | ok r =>
    have htells := r.concludes_trace.isOk_iff fun node => by cases r <;> rfl
    rw [Request.outcome_trace] at htells
    rw [compileDocument_toOption h, compileDocument, h]
    exact htells

theorem Invocation.code_eq_zero_iff (i : Invocation) (host : Host) :
    (i.run host).code = 0 ↔ (i.output host).1.toOption.isSome = true := by
  have hshows := i.run_shows host
  cases h : (i.output host).1.toOption with
  | some output =>
    rw [h] at hshows
    exact ⟨fun _ => rfl, fun _ => hshows.1⟩
  | none =>
    rw [h] at hshows
    exact ⟨fun hcode => absurd hcode hshows.1, nofun⟩

/-- A command that asks for a query succeeds exactly if it reports one. -/
theorem succeeds_iff_reported (i : Invocation) (host : Host) (hquery : ∀ tokens, i.command ≠ .classify tokens) :
    (i.run host).code = 0 ↔ ∃ e ∈ (i.output host).2, e.level = .trace := by
  rw [i.code_eq_zero_iff]
  obtain ⟨command, format, noColour, verbose⟩ := i
  have hinfo : Level.info ≠ .trace := by decide
  simp only [Invocation.output]
  cases command with
  | prox expression params name =>
    rw [toOption_map, Option.isSome_map]
    exact tells_compileExpression hinfo (params.outcome_trace expression) (params.concludes_trace expression)
      fun _ => rfl
  | cap expression params name =>
    rw [toOption_map, Option.isSome_map]
    exact tells_compileExpression hinfo (params.outcome_trace expression) (params.concludes_trace expression)
      fun _ => rfl
  | document path =>
    rw [toOption_map, Option.isSome_map]
    exact tells_compileDocument host path
  | classify tokens => exact absurd rfl (hquery tokens)

end Cli

end Proximity
