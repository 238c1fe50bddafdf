import Proximity.Capitalization.Expression
import Proximity.Proofs.Expression.Outcome
import Proximity.Proofs.Query.Pairing
import Proximity.Query.Assembly

/-! Whatever an expression compiles to can be assembled step by step as well, and whatever is assembled stays on its
field.

* `Assembly.run`: steps taken one after the other; `Span.steps` are those that put down a span.
* `Assembly.run_onField`: the spans of an assembly are on its field, after every run.
* `run_steps`: the steps of a span put it down in front of whatever lies there.
* `compileProximity_assembled`, `compileCapitalization_assembled`: compiled queries can be assembled. -/
namespace Proximity
set_option autoImplicit false

/-! ## Spans on a field -/

/-- All terms of a span are on a field. -/
def Span.OnField (field : String) (s : Span) : Prop := ∀ t ∈ s.terms, t.field = field

namespace Span
variable {field : String}

theorem forall_mem_termsOf {P : Term → Prop} (ss : List Span) :
    (∀ t ∈ termsOf ss, P t) ↔ ∀ s ∈ ss, ∀ t ∈ s.terms, P t := by
  induction ss with
  | nil => simp [termsOf]
  | cons s ss ih => rw [termsOf, List.forall_mem_append, ih, List.forall_mem_cons]

theorem onField_ofTerm (field value : String) : (ofTerm field value).OnField field :=
  fun _ ht => List.mem_singleton.mp ht ▸ rfl

theorem onField_near {ss : List Span} {slop : UInt32} {inOrder : Bool} :
    (near ss slop inOrder).OnField field ↔ ∀ s ∈ ss, s.OnField field := forall_mem_termsOf ss

theorem onField_anyOf {ss : List Span} : (anyOf ss).OnField field ↔ ∀ s ∈ ss, s.OnField field := forall_mem_termsOf ss

theorem onField_phrase (field : String) (values : List String) : (phrase field values).OnField field := by
  refine onField_near.mpr fun s hs => ?_
  obtain ⟨v, -, rfl⟩ := List.mem_map.mp hs
  exact onField_ofTerm field v

end Span

theorem Operand.onField_alternatives (o : Operand) (field : String) : ∀ s ∈ o.alternatives field, s.OnField field := by
  cases o with
  | phrase ts =>
    intro s hs
    rw [List.mem_singleton.mp hs]
    exact Span.onField_phrase field ts
  | termSet ts =>
    intro s hs
    obtain ⟨v, -, rfl⟩ := List.mem_map.mp hs
    exact Span.onField_ofTerm field v

theorem Expression.onField_span (e : Expression) (field : String) : (e.span field).OnField field := by
  have hpairs : ∀ pair ∈ e.operator.pairings (e.left.alternatives field) (e.right.alternatives field),
      pair.OnField field := by
    intro pair hpair
    obtain ⟨x, hx, hmem⟩ := List.mem_flatMap.mp hpair
    obtain ⟨y, hy, rfl⟩ := List.mem_map.mp hmem
    refine Span.onField_near.mpr ?_
    rw [List.forall_mem_cons, List.forall_mem_singleton]
    exact ⟨e.left.onField_alternatives field x hx, e.right.onField_alternatives field y hy⟩
  rcases @span_cases field e with ⟨pair, hpair, hspan⟩ | hspan
  · rw [hspan]
    exact hpairs pair hpair
  · rw [hspan]
    exact Span.onField_anyOf.mpr hpairs

/-! ## One step -/

/-- The spans that a step takes up. -/
def AssemblyStep.taken : AssemblyStep → ℕ
  | .near count _ _ => count
  | .anyOf count => count
  | .addSpan => 1
  | _ => 0

/-- The spans of an assembly are on its field. -/
def Assembly.OnField (a : Assembly) : Prop := ∀ s ∈ a.spans, s.OnField a.field

namespace Assembly
variable {a b : Assembly} {st : AssemblyStep}

theorem combine_eq_ok_iff {count : ℕ} {f : List Span → Span} : a.combine count f = .ok b ↔
    count ≤ a.spans.length ∧ b = { a with spans := f (a.spans.take count).reverse :: a.spans.drop count } := by
  unfold combine
  split
  · next h =>
    constructor
    · intro hb
      exact ⟨h, (Except.ok.inj hb).symm⟩
    · rintro ⟨-, rfl⟩
      rfl
  · next h => simp [h]

/-- A step can be taken exactly if the spans that it takes up are there. -/
theorem exists_step_iff (a : Assembly) (st : AssemblyStep) : (∃ b, a.step st = .ok b) ↔ st.taken ≤ a.spans.length := by
  cases st with
  | near count slop inOrder => simp [step, combine_eq_ok_iff, AssemblyStep.taken]
  | anyOf count => simp [step, combine_eq_ok_iff, AssemblyStep.taken]
  | addSpan =>
    obtain ⟨field, spans, clauses⟩ := a
    cases spans <;> simp [step, AssemblyStep.taken]
  | _ => simp [step, AssemblyStep.taken]

theorem onField_combine {count : ℕ} {f : List Span → Span} (h : a.OnField)
    (hf : ∀ ss, (∀ s ∈ ss, s.OnField a.field) → (f ss).OnField a.field) (hb : a.combine count f = .ok b) :
    b.field = a.field ∧ b.OnField := by
  obtain ⟨-, rfl⟩ := combine_eq_ok_iff.mp hb
  refine ⟨rfl, List.forall_mem_cons.mpr ⟨hf _ fun s hs => ?_, fun s hs => ?_⟩⟩
  · exact h s (List.mem_of_mem_take (List.mem_reverse.mp hs))
  · exact h s (List.mem_of_mem_drop hs)

theorem onField_step (h : a.OnField) (hstep : a.step st = .ok b) : b.field = a.field ∧ b.OnField := by
  cases st with
  | term value =>
    obtain rfl := Except.ok.inj hstep
    exact ⟨rfl, List.forall_mem_cons.mpr ⟨Span.onField_ofTerm a.field value, h⟩⟩
  | phrase values =>
    obtain rfl := Except.ok.inj hstep
    exact ⟨rfl, List.forall_mem_cons.mpr ⟨Span.onField_phrase a.field values, h⟩⟩
  | near count slop inOrder => exact onField_combine h (fun _ => Span.onField_near.mpr) hstep
  | anyOf count => exact onField_combine h (fun _ => Span.onField_anyOf.mpr) hstep
  | addTerm value required =>
    obtain rfl := Except.ok.inj hstep
    exact ⟨rfl, h⟩
  | addSpan =>
    obtain ⟨field, spans, clauses⟩ := a
    cases spans with
    | nil => cases hstep
    | cons s rest =>
      obtain rfl := Except.ok.inj hstep
      exact ⟨rfl, fun x hx => h x (List.mem_cons_of_mem s hx)⟩
  | addPayload t octets =>
    obtain rfl := Except.ok.inj hstep
    exact ⟨rfl, h⟩
  | finish minimum =>
    obtain rfl := Except.ok.inj hstep
    exact ⟨rfl, h⟩

/-! ## Runs -/

/-- Takes steps, as long as they can be taken. -/
def run (a : Assembly) (steps : List AssemblyStep) : Except AssemblyFault Assembly := steps.foldlM step a

theorem run_cons_ok (h : a.step st = .ok b) (steps : List AssemblyStep) : a.run (st :: steps) = b.run steps := by
  rw [run, List.foldlM_cons, h]
  rfl

theorem run_append_ok {steps : List AssemblyStep} (h : a.run steps = .ok b) (more : List AssemblyStep) :
    a.run (steps ++ more) = b.run more := by
  rw [run] at h
  rw [run, List.foldlM_append, h]
  rfl

/-- Whatever steps are taken, the spans stay on the field. -/
theorem run_onField {steps : List AssemblyStep} (h : a.OnField) (hrun : a.run steps = .ok b) :
    b.field = a.field ∧ b.OnField := by
  induction steps generalizing a with
  | nil =>
    obtain rfl := Except.ok.inj hrun
    exact ⟨rfl, h⟩
  | cons st steps ih =>
    cases hstep : a.step st with
    | error e =>
      rw [run, List.foldlM_cons, hstep] at hrun
      cases hrun
    | ok c =>
      rw [run_cons_ok hstep] at hrun
      obtain ⟨hfield, hc⟩ := onField_step h hstep
      obtain ⟨hfield', hb⟩ := ih hc hrun
      exact ⟨hfield'.trans hfield, hb⟩

end Assembly

/-! ## Putting down a span -/

mutual

/-- The steps that put down a span. -/
def Span.steps : Span → List AssemblyStep
  | .term t => [.term t.value]
  | .near clauses slop inOrder => Span.stepsOf clauses ++ [.near clauses.length slop inOrder]
  | .anyOf clauses => Span.stepsOf clauses ++ [.anyOf clauses.length]

/-- The steps that put down some spans, the last one in front. -/
def Span.stepsOf : List Span → List AssemblyStep
  | [] => []
  | s :: rest => s.steps ++ Span.stepsOf rest

end

namespace Assembly

theorem combine_front (field : String) (ss spans : List Span) (clauses : List Clause) (f : List Span → Span) :
    combine ⟨field, ss.reverse ++ spans, clauses⟩ ss.length f = .ok ⟨field, f ss :: spans, clauses⟩ := by
  refine combine_eq_ok_iff.mpr ⟨by simp, ?_⟩
  rw [List.take_left' List.length_reverse, List.drop_left' List.length_reverse, List.reverse_reverse]

mutual

/-- The steps of a span put it down in front of whatever lies there. -/
theorem run_steps {field : String} (spans : List Span) (clauses : List Clause) :
    ∀ {s : Span}, s.OnField field → run ⟨field, spans, clauses⟩ s.steps = .ok ⟨field, s :: spans, clauses⟩
  | .term t, h => by
    obtain rfl : t.field = field := h t (List.mem_singleton_self t)
    rfl
  | .near ss slop inOrder, h => by
    have hnear : step ⟨field, ss.reverse ++ spans, clauses⟩ (.near ss.length slop inOrder) =
        .ok ⟨field, .near ss slop inOrder :: spans, clauses⟩ :=
      combine_front field ss spans clauses fun ss => .near ss slop inOrder
    rw [Span.steps, run_append_ok (run_stepsOf spans clauses (Span.onField_near.mp h))]
    exact run_cons_ok hnear []
  | .anyOf ss, h => by
    have hany : step ⟨field, ss.reverse ++ spans, clauses⟩ (.anyOf ss.length) =
        .ok ⟨field, .anyOf ss :: spans, clauses⟩ := combine_front field ss spans clauses .anyOf
    rw [Span.steps, run_append_ok (run_stepsOf spans clauses (Span.onField_anyOf.mp h))]
    exact run_cons_ok hany []

theorem run_stepsOf {field : String} (spans : List Span) (clauses : List Clause) :
    ∀ {ss : List Span}, (∀ s ∈ ss, s.OnField field) →
      run ⟨field, spans, clauses⟩ (Span.stepsOf ss) = .ok ⟨field, ss.reverse ++ spans, clauses⟩
  | [], _ => rfl
  | s :: ss, h => by
    have hs := run_steps spans clauses (h s (List.mem_cons_self ..))
    have hss := run_stepsOf (s :: spans) clauses fun x hx => h x (List.mem_cons_of_mem s hx)
    rw [Span.stepsOf, run_append_ok hs, hss, List.reverse_cons, List.append_assoc]
    rfl

end

/-- A phrase is put down at once as its terms are one after the other. -/
theorem step_phrase (a : Assembly) (values : List String) :
    a.step (.phrase values) = a.run (Span.phrase a.field values).steps :=
  (run_steps a.spans a.clauses (Span.onField_phrase a.field values)).symm

end Assembly

/-! ## Assembling queries -/

/-- The steps that add a clause of a compiled query. -/
inductive Clause.AddedBy (field : String) : Clause → List AssemblyStep → Prop
  | term (value : String) : AddedBy field (.optional (.ofTerm field value)) [.addTerm value false]
  | span {s : Span} (h : s.OnField field) : AddedBy field (.optional (.span s)) (s.steps ++ [.addSpan])

/-- A query is assembled where it lies alone: as the only span, or as the query of the only clause. -/
inductive Assembly.Holds (field : String) : Node → Assembly → Prop
  | span (s : Span) : Holds field (.span s) ⟨field, [s], []⟩
  | clause (n : Node) (required : Bool) : Holds field n ⟨field, [], [.mk n required]⟩

/-- A query can be assembled from nothing. -/
def Node.Assembled (field : String) (n : Node) : Prop :=
  ∃ steps a, (Assembly.start field).run steps = .ok a ∧ a.Holds field n

namespace Assembly
variable {field : String}

theorem run_added {c : Clause} {steps : List AssemblyStep} (h : c.AddedBy field steps) (spans : List Span)
    (clauses : List Clause) : run ⟨field, spans, clauses⟩ steps = .ok ⟨field, spans, clauses ++ [c]⟩ := by
  cases h with
  | term value => rfl
  | span h =>
    rw [run_append_ok (run_steps spans clauses h)]
    rfl

theorem exists_run_clauses {cs : List Clause} (h : ∀ c ∈ cs, ∃ steps, c.AddedBy field steps) (spans : List Span)
    (clauses : List Clause) : ∃ steps, run ⟨field, spans, clauses⟩ steps = .ok ⟨field, spans, clauses ++ cs⟩ := by
  induction cs generalizing clauses with
  | nil => exact ⟨[], by rw [List.append_nil]; rfl⟩
  | cons c cs ih =>
    obtain ⟨hc, hcs⟩ := List.forall_mem_cons.mp h
    obtain ⟨steps, hsteps⟩ := hc
    obtain ⟨more, hmore⟩ := ih hcs (clauses ++ [c])
    refine ⟨steps ++ more, ?_⟩
    rw [run_append_ok (run_added hsteps spans clauses), hmore, List.append_assoc]
    rfl

end Assembly

theorem Expression.addedBy_clauses {e : Expression} {field : String} {cs : List Clause}
    (h : e.clauses? field = some cs) : ∀ c ∈ cs, ∃ steps, c.AddedBy field steps := by
  have hterms : ∀ values, ∀ c ∈ optionalTerms field values, ∃ steps, c.AddedBy field steps := by
    intro values c hc
    obtain ⟨v, -, rfl⟩ := List.mem_map.mp hc
    exact ⟨_, .term v⟩
  unfold Expression.clauses? at h
  split at h
  · next last first trailing hlast hfirst =>
    obtain rfl := Option.some.inj h
    have hpair : (e.operator.pair (.ofTerm field last) (.ofTerm field first)).OnField field :=
      Span.onField_near.mpr (by simp [Span.onField_ofTerm])
    rw [List.forall_mem_append, List.forall_mem_cons]
    exact ⟨hterms _, ⟨_, .span hpair⟩, hterms _⟩
  · cases h

/-- Every query that a proximity expression compiles to can be assembled. -/
theorem compileProximity_assembled {field raw : String} {analyzer : Analyzer} {mode : Mode} {percent : UInt32}
    {n : Node} (h : compileProximity field raw analyzer mode percent = .ok n) : n.Assembled field := by
  obtain ⟨e, -, hcompile⟩ := bind_eq_ok h
  rcases compile_ok hcompile with ⟨-, rfl⟩ | ⟨cs, -, hcs, rfl⟩
  · exact ⟨_, _, Assembly.run_steps [] [] (e.onField_span field), .span _⟩
  · obtain ⟨steps, hsteps⟩ := Assembly.exists_run_clauses (e.addedBy_clauses hcs) [] []
    refine ⟨steps ++ [.finish (minimumShouldMatch (.ofNat cs.length) percent)], ⟨field, [], [.optional _]⟩, ?_,
      .clause _ false⟩
    exact (Assembly.run_append_ok hsteps _).trans rfl

/-- Every query that a capitalization expression compiles to can be assembled. -/
theorem compileCapitalization_assembled {field raw : String} {analyzer : Analyzer} {n : Node}
    (h : compileCapitalization field raw analyzer = .ok n) : n.Assembled field := by
  obtain ⟨e, -, hn⟩ := bind_eq_ok h
  obtain rfl := Except.ok.inj hn
  exact ⟨[.addPayload _ _], _, rfl, .clause _ true⟩

end Proximity
