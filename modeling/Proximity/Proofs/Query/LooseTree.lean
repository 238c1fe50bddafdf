import Proximity.Proofs.Query.WellFormed

/-! The clauses of a loose tree. Read from left to right, with its two terms for the pairing, they are the terms of the
left side and then those of the right side: none is lost, repeated or moved.

* `LooseTree`: what the clauses of an expression must be; `LooseTree.eq` says that they can be nothing else.
* `compile_loose_iff`: loose compiling gives exactly these clauses, and refuses exactly the sides without terms. -/
namespace Proximity
set_option autoImplicit false

/-! ## Optional terms -/

theorem termsOf_optionalTerms (field : String) (vs : List String) :
    Clause.termsOf (optionalTerms field vs) = vs.map (Term.mk field) := by
  induction vs with
  | nil => rfl
  | cons v vs ih => exact congrArg (Term.mk field v :: ·) ih

theorem eq_map_of_isPlain {cs : List Clause} (h : ∀ c ∈ cs, c.IsPlain) :
    cs = (Clause.termsOf cs).map fun t => .optional (.term t) := by
  induction cs with
  | nil => rfl
  | cons c cs ih =>
    obtain ⟨query, required⟩ := c
    obtain ⟨⟨hrequired, t, hquery⟩, hcs⟩ := List.forall_mem_cons.mp h
    obtain rfl : required = false := hrequired
    obtain rfl : query = .term t := hquery
    exact congrArg (Clause.optional (.term t) :: ·) (ih hcs)

theorem length_termsOf_isPlain {cs : List Clause} (h : ∀ c ∈ cs, c.IsPlain) :
    (Clause.termsOf cs).length = cs.length := by
  conv_rhs => rw [eq_map_of_isPlain h, List.length_map]

theorem eq_optionalTerms {field : String} {cs : List Clause} {vs : List String} (h : ∀ c ∈ cs, c.IsPlain)
    (hvs : Clause.termsOf cs = vs.map (Term.mk field)) : cs = optionalTerms field vs := by
  rw [eq_map_of_isPlain h, hvs, List.map_map]
  rfl

/-! ## The clauses of an expression -/

/-- The pairing of two terms of a field at the distance and in the order of an operator. -/
def Operator.termPair (op : Operator) (field last first : String) : Node :=
  .span (.near [.term ⟨field, last⟩, .term ⟨field, first⟩] op.distance op.order.inOrder)

/-- The clauses that an expression must have: as many as it has terms but one, all optional, with the pairing of the
last left term and the first right one in its place and plain terms everywhere else, and all terms in their order. -/
structure LooseTree (field : String) (e : Expression) (clauses : List Clause) : Prop where
  length : clauses.length = e.left.terms.length + e.right.terms.length - 1
  optional : ∀ c ∈ clauses, c.required = false
  pairing : ∃ last first, e.left.terms.getLast? = some last ∧ e.right.terms.head? = some first ∧
    (clauses[e.left.terms.length - 1]?).map Clause.query = some (e.operator.termPair field last first)
  plain : ∀ i c, clauses[i]? = some c → i ≠ e.left.terms.length - 1 → ∃ t, c.query = .term t
  terms : Clause.termsOf clauses = (e.left.terms ++ e.right.terms).map (Term.mk field)

/-- Terms, a pairing and terms again. -/
def Operator.clausesAround (op : Operator) (field : String) (lead : List String) (last first : String)
    (trailing : List String) : List Clause :=
  optionalTerms field lead ++ .optional (op.termPair field last first) :: optionalTerms field trailing

theorem length_clausesAround (op : Operator) (field : String) (lead : List String) (last first : String)
    (trailing : List String) :
    (op.clausesAround field lead last first trailing).length = lead.length + trailing.length + 1 := by
  simp only [Operator.clausesAround, optionalTerms, List.length_append, List.length_cons, List.length_map]
  omega

theorem termsOf_clausesAround (op : Operator) (field : String) (lead : List String) (last first : String)
    (trailing : List String) :
    Clause.termsOf (op.clausesAround field lead last first trailing) =
      (lead ++ [last] ++ first :: trailing).map (Term.mk field) := by
  have htail : Clause.termsOf (.optional (op.termPair field last first) :: optionalTerms field trailing) =
      ⟨field, last⟩ :: ⟨field, first⟩ :: Clause.termsOf (optionalTerms field trailing) := rfl
  rw [Operator.clausesAround, Clause.termsOf_append, htail, termsOf_optionalTerms, termsOf_optionalTerms]
  simp

/-- Before and behind the pairing stand terms alone. -/
theorem clausesAround_cases {op : Operator} {field last first : String} {lead trailing : List String} {i : ℕ}
    {c : Clause} (h : (op.clausesAround field lead last first trailing)[i]? = some c) :
    i = lead.length ∧ c = .optional (op.termPair field last first) ∨ i ≠ lead.length ∧ c.IsPlain := by
  have hlead : (optionalTerms field lead).length = lead.length := List.length_map ..
  rw [Operator.clausesAround] at h
  rcases Nat.lt_trichotomy i lead.length with hlt | rfl | hgt
  · rw [List.getElem?_append_left (by omega)] at h
    exact .inr ⟨by omega, isPlain_optionalTerms field lead c (List.mem_of_getElem? h)⟩
  · rw [List.getElem?_append_right (by omega), hlead, Nat.sub_self] at h
    exact .inl ⟨rfl, (Option.some.inj h).symm⟩
  · obtain ⟨k, rfl⟩ := Nat.exists_eq_add_of_lt hgt
    have hk : lead.length + k + 1 - lead.length = k + 1 := by omega
    rw [List.getElem?_append_right (by omega), hlead, hk, List.getElem?_cons_succ] at h
    exact .inr ⟨by omega, isPlain_optionalTerms field trailing c (List.mem_of_getElem? h)⟩

theorem getElem?_clausesAround (op : Operator) (field : String) (lead : List String) (last first : String)
    (trailing : List String) :
    (op.clausesAround field lead last first trailing)[lead.length]? =
      some (.optional (op.termPair field last first)) := by
  have hlead : (optionalTerms field lead).length = lead.length := List.length_map ..
  rw [Operator.clausesAround, List.getElem?_append_right (by omega), hlead, Nat.sub_self]
  rfl

section
variable {field : String} {e : Expression}

theorem LooseTree.terms_ne_nil {clauses : List Clause} (h : LooseTree field e clauses) :
    e.left.terms ≠ [] ∧ e.right.terms ≠ [] := by
  obtain ⟨last, first, hlast, hfirst, -⟩ := h.pairing
  constructor
  · intro hleft
    simp [hleft] at hlast
  · intro hright
    simp [hright] at hfirst

theorem clauses_eq_none_iff : e.clauses? field = none ↔ e.left.terms = [] ∨ e.right.terms = [] := by
  rcases List.eq_nil_or_concat' e.left.terms with hleft | ⟨lead, last, hleft⟩
  · simp [Expression.clauses?, hleft]
  · cases hright : e.right.terms with
    | nil => simp [Expression.clauses?, hleft, hright]
    | cons first trailing => simp [Expression.clauses?, hleft, hright]

variable {lead trailing : List String} {last first : String} (hleft : e.left.terms = lead ++ [last])
  (hright : e.right.terms = first :: trailing)
include hleft hright

theorem clauses_concat : e.clauses? field = some (e.operator.clausesAround field lead last first trailing) := by
  simp only [Expression.clauses?, hleft, hright, List.getLast?_concat, List.dropLast_concat]
  rfl

theorem looseTree_concat : LooseTree field e (e.operator.clausesAround field lead last first trailing) := by
  have hplace : e.left.terms.length - 1 = lead.length := by simp [hleft]
  have hlength : (e.operator.clausesAround field lead last first trailing).length =
      e.left.terms.length + e.right.terms.length - 1 := by
    rw [length_clausesAround, hleft, hright, List.length_append, List.length_singleton, List.length_cons]
    omega
  have hoptional : ∀ c ∈ e.operator.clausesAround field lead last first trailing, c.required = false := by
    intro c hc
    obtain ⟨i, hi⟩ := List.mem_iff_getElem?.mp hc
    rcases clausesAround_cases hi with ⟨-, rfl⟩ | ⟨-, hplain⟩
    · rfl
    · exact hplain.1
  have hplain : ∀ i c, (e.operator.clausesAround field lead last first trailing)[i]? = some c →
      i ≠ e.left.terms.length - 1 → ∃ t, c.query = .term t := by
    intro i c hc hi
    rw [hplace] at hi
    rcases clausesAround_cases hc with ⟨h, -⟩ | ⟨-, hplain⟩
    · exact absurd h hi
    · exact hplain.2
  refine ⟨hlength, hoptional, ⟨last, first, ?_, ?_, ?_⟩, hplain, ?_⟩
  · rw [hleft, List.getLast?_concat]
  · rw [hright, List.head?_cons]
  · rw [hplace, getElem?_clausesAround]
    rfl
  · rw [termsOf_clausesAround, hleft, hright]

theorem compile_concat (percent : UInt32) :
    e.compile field .looseTerms percent = .ok (.choice (e.operator.clausesAround field lead last first trailing)
      (minimumShouldMatch (.ofNat (e.left.terms.length + e.right.terms.length - 1)) percent)) := by
  have htree : LooseTree field e _ := looseTree_concat hleft hright
  simp only [Expression.compile, clauses_concat hleft hright, htree.length]

/-- The clauses are determined by what is demanded of them. -/
theorem LooseTree.eq {clauses : List Clause} (h : LooseTree field e clauses) :
    clauses = e.operator.clausesAround field lead last first trailing := by
  obtain ⟨last', first', hlast, hfirst, hpairing⟩ := h.pairing
  rw [hleft, List.getLast?_concat] at hlast
  rw [hright, List.head?_cons] at hfirst
  obtain rfl := Option.some.inj hlast
  obtain rfl := Option.some.inj hfirst
  have hplace : e.left.terms.length - 1 = lead.length := by simp [hleft]
  obtain ⟨c, hc, hquery⟩ := Option.map_eq_some_iff.mp hpairing
  rw [hplace] at hc
  obtain ⟨hlt, hget⟩ := List.getElem?_eq_some_iff.mp hc
  -- cut at the pairing: what stands before it and behind it is plain, so it is given by its terms
  have hcut : clauses = clauses.take lead.length ++ c :: clauses.drop (lead.length + 1) := by
    rw [← hget, List.getElem_cons_drop, List.take_append_drop]
  have hplain : ∀ i (hi : i < clauses.length), i ≠ lead.length → clauses[i].IsPlain := by
    intro i hi hne
    rw [← hplace] at hne
    exact ⟨h.optional _ (List.getElem_mem hi), h.plain i _ (List.getElem?_eq_getElem hi) hne⟩
  have hbefore : ∀ d ∈ clauses.take lead.length, d.IsPlain := by
    intro d hd
    obtain ⟨i, hi, rfl⟩ := List.mem_take_iff_getElem.mp hd
    exact hplain i _ (by omega)
  have hbehind : ∀ d ∈ clauses.drop (lead.length + 1), d.IsPlain := by
    intro d hd
    obtain ⟨i, hi, rfl⟩ := List.mem_drop_iff_getElem.mp hd
    exact hplain _ _ (by omega)
  obtain ⟨query, required⟩ := c
  obtain rfl : required = false := h.optional (.mk query required) (List.mem_of_getElem? hc)
  obtain rfl : query = e.operator.termPair field last first := hquery
  have hterms := h.terms
  rw [hcut, Clause.termsOf_append, hleft, hright, List.append_assoc, List.map_append] at hterms
  obtain ⟨hlead, hrest⟩ := List.append_inj hterms (by
    rw [length_termsOf_isPlain hbefore, List.length_take, List.length_map]
    omega)
  have htrailing : Clause.termsOf (clauses.drop (lead.length + 1)) = trailing.map (Term.mk field) :=
    List.tail_eq_of_cons_eq (List.tail_eq_of_cons_eq hrest)
  rw [hcut, eq_optionalTerms hbefore hlead, eq_optionalTerms hbehind htrailing]
  rfl

end

/-- Loose compiling refuses exactly the expressions with a side without terms, and makes of all others a choice of the
clauses that they must have, with the minimum for their number. -/
theorem compile_loose_iff (field : String) (e : Expression) (percent : UInt32) :
    (∀ refusal, e.compile field .looseTerms percent = .error refusal ↔
      (e.left.terms = [] ∨ e.right.terms = []) ∧ refusal = .malformed .emptyOperand none) ∧
    (∀ n, e.compile field .looseTerms percent = .ok n ↔ ∃ clauses, LooseTree field e clauses ∧
      n = .choice clauses
        (minimumShouldMatch (.ofNat (e.left.terms.length + e.right.terms.length - 1)) percent)) ∧
    ((∃ n, e.compile field .looseTerms percent = .ok n) ↔ e.left.terms ≠ [] ∧ e.right.terms ≠ []) ∧
    (Refusal.malformed .emptyOperand none).message = "empty operand" := by
  by_cases hempty : e.left.terms = [] ∨ e.right.terms = []
  · have hcompile : e.compile field .looseTerms percent = .error (.malformed .emptyOperand none) := by
      simp only [Expression.compile, clauses_eq_none_iff.mpr hempty]
    rw [hcompile]
    refine ⟨fun refusal => ?_, fun n => iff_of_false (by simp) ?_, iff_of_false (by simp) ?_, rfl⟩
    · rw [Except.error.injEq, and_iff_right hempty, eq_comm]
    · rintro ⟨clauses, h, -⟩
      exact hempty.elim h.terms_ne_nil.1 h.terms_ne_nil.2
    · rintro ⟨hl, hr⟩
      exact hempty.elim hl hr
  · obtain ⟨hl, hr⟩ := not_or.mp hempty
    obtain ⟨lead, last, hleft⟩ := (List.eq_nil_or_concat' e.left.terms).resolve_left hl
    obtain ⟨first, trailing, hright⟩ := List.exists_cons_of_ne_nil hr
    have htree : LooseTree field e _ := looseTree_concat hleft hright
    rw [compile_concat hleft hright percent]
    refine ⟨fun refusal => iff_of_false (by simp) fun h => hempty h.1, fun n => ?_, iff_of_true ⟨_, rfl⟩ ⟨hl, hr⟩, rfl⟩
    rw [Except.ok.injEq]
    constructor
    · rintro rfl
      exact ⟨_, htree, rfl⟩
    · rintro ⟨clauses, h, rfl⟩
      rw [h.eq hleft hright]

end Proximity
