import Proximity.Expression.Compile
import Proximity.Proofs.Expression.Operand
import Proximity.Proofs.Expression.Splitting
import Proximity.Proofs.Expression.Token

/-! What decides whether an expression compiles. Four checks are made in order: an operator is found, each
side has terms, the left one first, and the distance fits.

* `Checked`: the parts and terms of an expression that passes all of them.
* `FirstFailure`: the refusal that the first failing check gives.
* `compile_outcome`: compiling refuses with exactly the first failure and succeeds on all that is checked. -/
namespace Proximity
set_option autoImplicit false

section
variable (field : String) (analyzer : Analyzer) (mode : Mode) (raw : String)

/-- An expression that passes every check, with its parts and the terms of its sides. -/
structure Checked (l op r : List Char) (ts us : List String) : Prop where
  cut : GreedyDecomposition (Text.trim raw.toList) l op r
  left : SideTerms field analyzer mode (Text.trim l) ts
  right : SideTerms field analyzer mode (Text.trim r) us
  distance : distanceOf op < 2 ^ 32

/-- The refusal that the first failing check of an expression gives. -/
inductive FirstFailure : Refusal → Prop
  | operator (h : ∀ l op r, ¬ Decomposition (Text.trim raw.toList) l op r) :
      FirstFailure (.malformedAt .missingOperator (Text.trimmed raw))
  | left {l op r : List Char} {e : Refusal} (cut : GreedyDecomposition (Text.trim raw.toList) l op r)
      (hl : SideRefused field analyzer mode (Text.trim l) e) : FirstFailure e
  | right {l op r : List Char} {ts : List String} {e : Refusal}
      (cut : GreedyDecomposition (Text.trim raw.toList) l op r)
      (hl : SideTerms field analyzer mode (Text.trim l) ts)
      (hr : SideRefused field analyzer mode (Text.trim r) e) : FirstFailure e
  | distance {l op r : List Char} {ts us : List String}
      (cut : GreedyDecomposition (Text.trim raw.toList) l op r)
      (hl : SideTerms field analyzer mode (Text.trim l) ts)
      (hr : SideTerms field analyzer mode (Text.trim r) us) (hd : 2 ^ 32 ≤ distanceOf op) :
      FirstFailure (.malformedAt .distanceOutOfRange (String.ofList op))

theorem checked_or_failure :
    (∃ l op r ts us, Checked field analyzer mode raw l op r ts us) ∨
      ∃ e, FirstFailure field analyzer mode raw e := by
  rcases greedy_or_none (Text.trim raw.toList) with ⟨l, op, r, cut⟩ | hnone
  · rcases side_terms_or_refused field analyzer mode (Text.trim l) with ⟨ts, hl⟩ | ⟨e, hl⟩
    · rcases side_terms_or_refused field analyzer mode (Text.trim r) with ⟨us, hr⟩ | ⟨e, hr⟩
      · rcases Nat.lt_or_ge (distanceOf op) (2 ^ 32) with hd | hd
        · exact .inl ⟨l, op, r, ts, us, cut, hl, hr, hd⟩
        · exact .inr ⟨_, .distance cut hl hr hd⟩
      · exact .inr ⟨e, .right cut hl hr⟩
    · exact .inr ⟨e, .left cut hl⟩
  · exact .inr ⟨_, .operator hnone⟩

variable {field analyzer mode raw}

/-! ## Parsing -/

theorem parse_parts {l op r : List Char} {ts us : List String} {o : Operator}
    (cut : GreedyDecomposition (Text.trim raw.toList) l op r)
    (hl : SideTerms field analyzer mode (Text.trim l) ts)
    (hr : SideTerms field analyzer mode (Text.trim r) us)
    (ho : Operator.parse (String.ofList op) = .ok o) :
    Expression.parse field raw analyzer mode.recognizesPhrases =
      .ok ⟨operandOf mode (Text.trim l) ts, o, operandOf mode (Text.trim r) us⟩ := by
  simp only [Expression.parse, bind, Except.bind, ofExpression_of_greedy cut,
    classify_terms (Text.bare_trim l) hl, classify_terms (Text.bare_trim r) hr, ho]
  rfl

theorem parse_failure {e : Refusal} (h : FirstFailure field analyzer mode raw e) :
    Expression.parse field raw analyzer mode.recognizesPhrases = .error e := by
  cases h with
  | operator hnone => simp only [Expression.parse, bind, Except.bind, ofExpression_of_none hnone]
  | left cut hl =>
    simp only [Expression.parse, bind, Except.bind, ofExpression_of_greedy cut,
      classify_refused (Text.bare_trim _) hl]
  | right cut hl hr =>
    simp only [Expression.parse, bind, Except.bind, ofExpression_of_greedy cut,
      classify_terms (Text.bare_trim _) hl, classify_refused (Text.bare_trim _) hr]
  | distance cut hl hr hd =>
    simp only [Expression.parse, bind, Except.bind, ofExpression_of_greedy cut,
      classify_terms (Text.bare_trim _) hl, classify_terms (Text.bare_trim _) hr,
      parse_isOperator_large cut.operator hd]

/-! ## Compiling -/

theorem bind_eq_ok {α β : Type} {x : Outcome α} {f : α → Outcome β} {b : β} (h : x >>= f = .ok b) :
    ∃ a, x = .ok a ∧ f a = .ok b := by
  cases x with
  | error e => cases h
  | ok a => exact ⟨a, rfl, h⟩

/-- An expression whose sides have terms compiles in either mode. -/
theorem compile_total (e : Expression) (percent : UInt32) (hl : e.left.terms ≠ []) (hr : e.right.terms ≠ []) :
    ∃ n, e.compile field mode percent = .ok n := by
  cases mode with
  | phraseAware => exact ⟨_, rfl⟩
  | looseTerms =>
    obtain ⟨first, trailing, hright⟩ := List.exists_cons_of_ne_nil hr
    have hlast : e.left.terms.getLast? = some (e.left.terms.getLast hl) := List.getLast?_eq_some_getLast hl
    simp only [Expression.compile, Expression.clauses?, hlast, hright]
    exact ⟨_, rfl⟩

/-- What a compiled expression is in either mode. -/
theorem compile_ok {e : Expression} {percent : UInt32} {n : Node} (h : e.compile field mode percent = .ok n) :
    (mode = .phraseAware ∧ n = .span (e.span field)) ∨
      ∃ cs, mode = .looseTerms ∧ e.clauses? field = some cs ∧
        n = .choice cs (minimumShouldMatch (.ofNat cs.length) percent) := by
  cases mode with
  | phraseAware => exact .inl ⟨rfl, (Except.ok.inj h).symm⟩
  | looseTerms =>
    cases hcs : e.clauses? field with
    | none =>
      simp only [Expression.compile, hcs] at h
      cases h
    | some cs =>
      simp only [Expression.compile, hcs] at h
      exact .inr ⟨cs, rfl, rfl, (Except.ok.inj h).symm⟩

theorem compileProximity_parts {l op r : List Char} {ts us : List String} {o : Operator} (percent : UInt32)
    (cut : GreedyDecomposition (Text.trim raw.toList) l op r)
    (hl : SideTerms field analyzer mode (Text.trim l) ts)
    (hr : SideTerms field analyzer mode (Text.trim r) us)
    (ho : Operator.parse (String.ofList op) = .ok o) :
    compileProximity field raw analyzer mode percent =
      Expression.compile field ⟨operandOf mode (Text.trim l) ts, o, operandOf mode (Text.trim r) us⟩
        mode percent := by
  rw [compileProximity, parse_parts cut hl hr ho]
  rfl

theorem compileProximity_checked {l op r : List Char} {ts us : List String} (percent : UInt32)
    (h : Checked field analyzer mode raw l op r ts us) :
    ∃ o : Operator, compileProximity field raw analyzer mode percent =
        Expression.compile field ⟨operandOf mode (Text.trim l) ts, o, operandOf mode (Text.trim r) us⟩
          mode percent ∧
      o.distance.toNat = distanceOf op ∧ (o.order.inOrder = true ↔ KeepsOrder op) := by
  obtain ⟨o, hparse, ho⟩ := parse_isOperator h.cut.operator h.distance
  exact ⟨o, compileProximity_parts percent h.cut h.left h.right hparse, ho⟩

theorem compileProximity_failure {e : Refusal} (percent : UInt32)
    (h : FirstFailure field analyzer mode raw e) :
    compileProximity field raw analyzer mode percent = .error e := by
  rw [compileProximity, parse_failure h]
  rfl

theorem compileProximity_succeeds {l op r : List Char} {ts us : List String} (percent : UInt32)
    (h : Checked field analyzer mode raw l op r ts us) :
    ∃ n, compileProximity field raw analyzer mode percent = .ok n := by
  obtain ⟨o, hcompile, -⟩ := compileProximity_checked percent h
  rw [hcompile]
  refine compile_total _ percent ?_ ?_
  · rw [terms_operandOf]
    exact h.left.1
  · rw [terms_operandOf]
    exact h.right.1

theorem checked_of_ok {percent : UInt32} {n : Node}
    (h : compileProximity field raw analyzer mode percent = .ok n) :
    ∃ l op r ts us, Checked field analyzer mode raw l op r ts us := by
  rcases checked_or_failure field analyzer mode raw with hchecked | ⟨e, hfailure⟩
  · exact hchecked
  · rw [compileProximity_failure percent hfailure] at h
    cases h

theorem failure_of_error {percent : UInt32} {e : Refusal}
    (h : compileProximity field raw analyzer mode percent = .error e) :
    FirstFailure field analyzer mode raw e := by
  rcases checked_or_failure field analyzer mode raw with ⟨l, op, r, ts, us, hchecked⟩ | ⟨e', hfailure⟩
  · obtain ⟨n, hn⟩ := compileProximity_succeeds percent hchecked
    rw [hn] at h
    cases h
  · rw [compileProximity_failure percent hfailure] at h
    exact Except.error.inj h ▸ hfailure

end

/-- The first failing check decides: its refusal is the outcome, and where no check fails there is a query.
The fragments are the trimmed expression, the refused side with its quotes and the operator as written. -/
theorem compile_outcome (field raw : String) (analyzer : Analyzer) (mode : Mode) (percent : UInt32) :
    (∀ e, compileProximity field raw analyzer mode percent = .error e ↔
      FirstFailure field analyzer mode raw e) ∧
    ((∃ n, compileProximity field raw analyzer mode percent = .ok n) ↔
      ∃ l op r ts us, Checked field analyzer mode raw l op r ts us) ∧
    (∃ usage, Mistake.missingOperator.message = "missing proximity operator" ++ usage) ∧
    Mistake.emptyOperand.message = "empty operand" ∧
    Mistake.distanceOutOfRange.message = "proximity distance out of range" := by
  refine ⟨fun e => ⟨failure_of_error, compileProximity_failure percent⟩, ⟨?_, ?_⟩,
    ⟨_, message_missingOperator⟩, rfl, rfl⟩
  · rintro ⟨n, hn⟩
    exact checked_of_ok hn
  · rintro ⟨l, op, r, ts, us, h⟩
    exact compileProximity_succeeds percent h

end Proximity
