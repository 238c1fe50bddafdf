import Proximity.Analysis.Standard
import Proximity.Proofs.Expression.Minimum
import Proximity.Proofs.Expression.Outcome
import Proximity.Proofs.Query.Pairing

/-! What an executor may rely on in every compiled tree.

* `Span.parts`, `Node.parts`, `Node.terms`: all spans and all terms of a tree, wherever they stand.
* `WellPlaced`: what a span must be, by whether a `near` stands above it. The outermost `near` spans pair the
  two sides, those below them are phrases.
* `Node.WellFormed`: all terms and spans of a tree fit the expression, and its root fits the mode.
* `compile_wellFormed`: every tree that compiling returns is well formed. -/
namespace Proximity
set_option autoImplicit false

/-! ## The parts of a tree -/

mutual

/-- Every span of a span, itself first, each with whether a `near` stands above it. -/
def Span.parts (below : Bool) : Span → List (Bool × Span)
  | .term t => [(below, .term t)]
  | .near clauses slop inOrder => (below, .near clauses slop inOrder) :: Span.partsOf true clauses
  | .anyOf clauses => (below, .anyOf clauses) :: Span.partsOf below clauses

def Span.partsOf (below : Bool) : List Span → List (Bool × Span)
  | [] => []
  | s :: rest => s.parts below ++ Span.partsOf below rest

end

mutual

/-- Every span of a query, with whether a `near` stands above it. -/
def Node.parts : Node → List (Bool × Span)
  | .term _ => []
  | .span s => s.parts false
  | .choice clauses _ => Clause.partsOf clauses
  | .payload _ _ => []

def Clause.partsOf : List Clause → List (Bool × Span)
  | [] => []
  | .mk query _ :: rest => query.parts ++ Clause.partsOf rest

end

mutual

/-- Every term of a query. -/
def Node.terms : Node → List Term
  | .term t => [t]
  | .span s => s.terms
  | .choice clauses _ => Clause.termsOf clauses
  | .payload t _ => [t]

def Clause.termsOf : List Clause → List Term
  | [] => []
  | .mk query _ :: rest => query.terms ++ Clause.termsOf rest

end

theorem Clause.partsOf_append (cs ds : List Clause) : partsOf (cs ++ ds) = partsOf cs ++ partsOf ds := by
  induction cs with
  | nil => rfl
  | cons c cs ih =>
    cases c
    rw [List.cons_append, partsOf, partsOf, ih, List.append_assoc]

theorem Clause.termsOf_append (cs ds : List Clause) : termsOf (cs ++ ds) = termsOf cs ++ termsOf ds := by
  induction cs with
  | nil => rfl
  | cons c cs ih =>
    cases c
    rw [List.cons_append, termsOf, termsOf, ih, List.append_assoc]

/-! ## Well-formed trees -/

/-- What a span must be: at the outside a pairing at the distance and in the order of the operator, below a
pairing a phrase or a term, and a choice only between pairings. -/
def WellPlaced (slop : ℕ) (ordered : Prop) : Bool → Span → Prop
  | _, .term _ => True
  | false, .near clauses k inOrder => clauses.length = 2 ∧ k.toNat = slop ∧ (inOrder = true ↔ ordered)
  | true, .near clauses k inOrder =>
    clauses ≠ [] ∧ (∀ s ∈ clauses, ∃ t, s = .term t) ∧ k = 0 ∧ inOrder = true
  | _, .anyOf clauses => 2 ≤ clauses.length ∧ ∀ s ∈ clauses, ∃ ss k inOrder, s = .near ss k inOrder

/-- Terms and spans that fit an expression on a field: all on the field, with values of its sides. -/
structure Fits (field : String) (values : List String) (slop : ℕ) (ordered : Prop) (ts : List Term)
    (ps : List (Bool × Span)) : Prop where
  terms : ∀ t ∈ ts, t.field = field ∧ t.value ∈ values
  placed : ∀ p ∈ ps, WellPlaced slop ordered p.1 p.2
  fields : ∀ p ∈ ps, p.2.field? = some field

/-- The root of a tree: a span where phrases are known, and otherwise a choice of optional clauses, none of
them a choice, with a minimum that the clauses can reach. -/
def Node.HasRoot (n : Node) (percent : UInt32) : Mode → Prop
  | .phraseAware => ∃ s, n = .span s
  | .looseTerms => ∃ clauses minimum, n = .choice clauses minimum ∧
      (∀ c ∈ clauses, c.required = false ∧ ∀ cs m, c.query ≠ .choice cs m) ∧
      minimum.toNat ≤ clauses.length ∧ (0 < percent → 1 ≤ minimum.toNat)

structure Node.WellFormed (field : String) (values : List String) (slop : ℕ) (ordered : Prop) (percent : UInt32)
    (mode : Mode) (n : Node) : Prop extends Fits field values slop ordered n.terms n.parts where
  root : n.HasRoot percent mode

/-- What a tree takes from its expression: the values of the two sides, some on each, and the distance and
order of the operator. -/
structure Expression.Provides (e : Expression) (values : List String) (slop : ℕ) (ordered : Prop) : Prop where
  slop : e.operator.distance.toNat = slop
  order : e.operator.order.inOrder = true ↔ ordered
  left_ne : e.left.terms ≠ []
  right_ne : e.right.terms ≠ []
  left_values : ∀ v ∈ e.left.terms, v ∈ values
  right_values : ∀ v ∈ e.right.terms, v ∈ values

section
variable {field : String} {values : List String} {slop : ℕ} {ordered : Prop}

theorem Fits.nil : Fits field values slop ordered [] [] := ⟨nofun, nofun, nofun⟩

theorem Fits.append {ts us : List Term} {ps qs : List (Bool × Span)} (h : Fits field values slop ordered ts ps)
    (h' : Fits field values slop ordered us qs) : Fits field values slop ordered (ts ++ us) (ps ++ qs) :=
  ⟨fun t ht => (List.mem_append.mp ht).elim (h.terms t) (h'.terms t),
    fun p hp => (List.mem_append.mp hp).elim (h.placed p) (h'.placed p),
    fun p hp => (List.mem_append.mp hp).elim (h.fields p) (h'.fields p)⟩

theorem Fits.cons {ts : List Term} {ps : List (Bool × Span)} {below : Bool} {s : Span}
    (h : Fits field values slop ordered ts ps) (hp : WellPlaced slop ordered below s)
    (hf : s.field? = some field) : Fits field values slop ordered ts ((below, s) :: ps) :=
  ⟨h.terms, List.forall_mem_cons.mpr ⟨hp, h.placed⟩, List.forall_mem_cons.mpr ⟨hf, h.fields⟩⟩

/-- Spans fit together if each of them fits. -/
theorem fits_spans {ss : List Span} {below : Bool}
    (h : ∀ s ∈ ss, Fits field values slop ordered s.terms (s.parts below)) :
    Fits field values slop ordered (Span.termsOf ss) (Span.partsOf below ss) := by
  induction ss with
  | nil => exact Fits.nil
  | cons s ss ih =>
    rw [Span.termsOf, Span.partsOf]
    exact (h s (List.mem_cons_self ..)).append (ih fun x hx => h x (List.mem_cons_of_mem s hx))

/-! ## Sides, pairings and their choice -/

theorem fits_term (field : String) {v : String} (below : Bool) (hv : v ∈ values) :
    Fits field values slop ordered (Span.ofTerm field v).terms ((Span.ofTerm field v).parts below) :=
  ⟨fun _ ht => List.mem_singleton.mp ht ▸ ⟨rfl, hv⟩, fun _ hp => List.mem_singleton.mp hp ▸ trivial,
    fun _ hp => List.mem_singleton.mp hp ▸ rfl⟩

theorem field_phrase {vs : List String} (hne : vs ≠ []) : (Span.phrase field vs).field? = some field := by
  obtain ⟨v, vs, rfl⟩ := List.exists_cons_of_ne_nil hne
  rfl

theorem fits_phrase {vs : List String} (hne : vs ≠ []) (hvs : ∀ v ∈ vs, v ∈ values) :
    Fits field values slop ordered (Span.phrase field vs).terms ((Span.phrase field vs).parts true) := by
  have hclauses : Fits field values slop ordered (Span.termsOf (vs.map (Span.ofTerm field)))
      (Span.partsOf true (vs.map (Span.ofTerm field))) := by
    apply fits_spans
    intro s hs
    obtain ⟨v, hv, rfl⟩ := List.mem_map.mp hs
    exact fits_term field true (hvs v hv)
  refine hclauses.cons ⟨mt List.map_eq_nil_iff.mp hne, ?_, rfl, rfl⟩ (field_phrase hne)
  intro s hs
  obtain ⟨v, -, rfl⟩ := List.mem_map.mp hs
  exact ⟨_, rfl⟩

/-- The alternatives of an operand fit below a pairing. -/
theorem fits_alternative {o : Operand} (hne : o.terms ≠ []) (hvs : ∀ v ∈ o.terms, v ∈ values) {s : Span}
    (hs : s ∈ o.alternatives field) :
    s.field? = some field ∧ Fits field values slop ordered s.terms (s.parts true) := by
  cases o with
  | phrase ts =>
    obtain rfl := List.mem_singleton.mp hs
    exact ⟨field_phrase hne, fits_phrase hne hvs⟩
  | termSet ts =>
    obtain ⟨v, hv, rfl⟩ := List.mem_map.mp hs
    exact ⟨rfl, fits_term field true (hvs v hv)⟩

theorem fits_pair {op : Operator} {x y : Span} (hslop : op.distance.toNat = slop)
    (horder : op.order.inOrder = true ↔ ordered)
    (hx : x.field? = some field ∧ Fits field values slop ordered x.terms (x.parts true))
    (hy : Fits field values slop ordered y.terms (y.parts true)) :
    (op.pair x y).field? = some field ∧
      Fits field values slop ordered (op.pair x y).terms ((op.pair x y).parts false) := by
  refine ⟨hx.1, ?_⟩
  have hclauses : Fits field values slop ordered (x.terms ++ (y.terms ++ []))
      (x.parts true ++ (y.parts true ++ [])) :=
    hx.2.append (hy.append Fits.nil)
  exact hclauses.cons ⟨rfl, hslop, horder⟩ hx.1

theorem length_alternatives_pos (field : String) {o : Operand} (hne : o.terms ≠ []) :
    1 ≤ (o.alternatives field).length := by
  cases o with
  | phrase ts => exact Nat.le_refl 1
  | termSet ts =>
    rw [Operand.alternatives, List.length_map]
    exact List.length_pos_iff.mpr hne

theorem length_alternatives_two (field : String) {o : Operand} (hne : o.terms ≠ [])
    (hfixed : o.isFixed = false) : 2 ≤ (o.alternatives field).length := by
  cases o with
  | phrase ts => cases hfixed
  | termSet ts =>
    have hlen : ts.length ≠ 1 := of_decide_eq_false hfixed
    have hpos : 0 < ts.length := List.length_pos_iff.mpr hne
    rw [Operand.alternatives, List.length_map]
    omega

namespace Expression.Provides
variable {e : Expression} (h : e.Provides values slop ordered)
include h

/-- Every pairing of the alternatives fits. -/
theorem fits_pairing (field : String) {s : Span}
    (hs : s ∈ e.operator.pairings (e.left.alternatives field) (e.right.alternatives field)) :
    (∃ x y, s = e.operator.pair x y) ∧ s.field? = some field ∧
      Fits field values slop ordered s.terms (s.parts false) := by
  obtain ⟨x, hx, hmem⟩ := List.mem_flatMap.mp hs
  obtain ⟨y, hy, rfl⟩ := List.mem_map.mp hmem
  exact ⟨⟨x, y, rfl⟩, fits_pair h.slop h.order (fits_alternative h.left_ne h.left_values hx)
    (fits_alternative h.right_ne h.right_values hy).2⟩

theorem pairings_ne_nil (field : String) :
    e.operator.pairings (e.left.alternatives field) (e.right.alternatives field) ≠ [] := by
  rw [← List.length_pos_iff, length_pairings]
  exact Nat.mul_pos (length_alternatives_pos field h.left_ne) (length_alternatives_pos field h.right_ne)

/-- There are several pairings unless both sides have one alternative each. -/
theorem two_le_pairings (field : String) (hfixed : ¬ (e.left.isFixed = true ∧ e.right.isFixed = true)) :
    2 ≤ (e.operator.pairings (e.left.alternatives field) (e.right.alternatives field)).length := by
  rw [length_pairings]
  rw [← Bool.and_eq_true, Bool.not_eq_true] at hfixed
  rcases Bool.and_eq_false_iff.mp hfixed with hl | hr
  · exact Nat.mul_le_mul (length_alternatives_two field h.left_ne hl)
      (length_alternatives_pos field h.right_ne)
  · exact Nat.mul_le_mul (length_alternatives_pos field h.left_ne)
      (length_alternatives_two field h.right_ne hr)

theorem fits_span : Fits field values slop ordered (e.span field).terms ((e.span field).parts false) := by
  have hpairs := fun s hs => h.fits_pairing field (s := s) hs
  have htwo := h.two_le_pairings field
  obtain ⟨first, rest, heq⟩ := List.exists_cons_of_ne_nil (h.pairings_ne_nil field)
  rw [heq] at hpairs htwo
  have hfirst := hpairs first (List.mem_cons_self ..)
  by_cases hfixed : e.left.isFixed = true ∧ e.right.isFixed = true
  · have hspan : e.span field = first := span_of_fixed hfixed.1 hfixed.2 (by rw [heq]; rfl)
    rw [hspan]
    exact hfirst.2.2
  · rw [span_of_not_fixed hfixed, heq]
    refine (fits_spans fun s hs => (hpairs s hs).2.2).cons ⟨?_, fun s hs => ?_⟩ hfirst.2.1
    · exact htwo hfixed
    · obtain ⟨x, y, rfl⟩ := (hpairs s hs).1
      exact ⟨_, _, _, rfl⟩

end Expression.Provides

/-! ## The clauses of a loose tree -/

theorem fits_optionalTerms {vs : List String} (hvs : ∀ v ∈ vs, v ∈ values) :
    Fits field values slop ordered (Clause.termsOf (optionalTerms field vs))
      (Clause.partsOf (optionalTerms field vs)) := by
  induction vs with
  | nil => exact Fits.nil
  | cons v vs ih =>
    have hv : Fits field values slop ordered [⟨field, v⟩] [] :=
      ⟨fun _ ht => List.mem_singleton.mp ht ▸ ⟨rfl, hvs v (List.mem_cons_self ..)⟩, nofun, nofun⟩
    exact hv.append (ih fun x hx => hvs x (List.mem_cons_of_mem v hx))

/-- An optional clause that asks for a term alone. -/
def Clause.IsPlain (c : Clause) : Prop := c.required = false ∧ ∃ t, c.query = .term t

theorem isPlain_optionalTerms (field : String) (vs : List String) : ∀ c ∈ optionalTerms field vs, c.IsPlain := by
  intro c hc
  obtain ⟨v, -, rfl⟩ := List.mem_map.mp hc
  exact ⟨rfl, _, rfl⟩

theorem Clause.IsPlain.optional {c : Clause} (h : c.IsPlain) :
    c.required = false ∧ ∀ cs m, c.query ≠ .choice cs m := by
  obtain ⟨hrequired, t, hquery⟩ := h
  refine ⟨hrequired, fun cs m hchoice => ?_⟩
  rw [hquery] at hchoice
  cases hchoice

variable {e : Expression}

/-- The clauses of an expression fit, are all optional, and none is a choice. -/
theorem Expression.Provides.fits_clauses (h : e.Provides values slop ordered) {cs : List Clause}
    (hcs : e.clauses? field = some cs) :
    Fits field values slop ordered (Clause.termsOf cs) (Clause.partsOf cs) ∧ 0 < cs.length ∧
      ∀ c ∈ cs, c.required = false ∧ ∀ ds m, c.query ≠ .choice ds m := by
  unfold Expression.clauses? at hcs
  split at hcs
  · next last first trailing hlast hfirst =>
    obtain rfl := Option.some.inj hcs
    have hlastv : last ∈ values := h.left_values last (List.mem_of_mem_getLast? hlast)
    have hfirstv : first ∈ values := h.right_values first (hfirst ▸ List.mem_cons_self ..)
    have hpair := fits_pair h.slop h.order ⟨rfl, fits_term field true hlastv⟩ (fits_term field true hfirstv)
    have hlead : Fits field values slop ordered (Clause.termsOf (optionalTerms field e.left.terms.dropLast))
        (Clause.partsOf (optionalTerms field e.left.terms.dropLast)) :=
      fits_optionalTerms fun v hv => h.left_values v ((List.dropLast_sublist _).subset hv)
    have htrail : Fits field values slop ordered (Clause.termsOf (optionalTerms field trailing))
        (Clause.partsOf (optionalTerms field trailing)) :=
      fits_optionalTerms fun v hv => h.right_values v (hfirst ▸ List.mem_cons_of_mem first hv)
    refine ⟨?_, ?_, fun c hc => ?_⟩
    · rw [Clause.termsOf_append, Clause.partsOf_append]
      exact hlead.append (hpair.2.append htrail)
    · rw [List.length_append, List.length_cons]
      omega
    · rcases List.mem_append.mp hc with hc | hc
      · exact (isPlain_optionalTerms field _ c hc).optional
      · rcases List.mem_cons.mp hc with rfl | hc
        · exact ⟨rfl, nofun⟩
        · exact (isPlain_optionalTerms field _ c hc).optional
  · cases hcs

/-! ## Compiled trees -/

theorem Expression.Provides.wellFormed (h : e.Provides values slop ordered) {mode : Mode} {percent : UInt32}
    {n : Node} (hn : e.compile field mode percent = .ok n)
    (hsize : ∀ cs m, n = .choice cs m → cs.length ≤ 9 * 10 ^ 16) :
    n.WellFormed field values slop ordered percent mode := by
  rcases compile_ok hn with ⟨rfl, rfl⟩ | ⟨cs, rfl, hcs, rfl⟩
  · exact ⟨h.fits_span, ⟨_, rfl⟩⟩
  · have hlen := hsize cs _ rfl
    obtain ⟨hfits, hpos, hoptional⟩ := h.fits_clauses hcs
    exact ⟨hfits, cs, _, rfl, hoptional, minimumShouldMatch_le percent hlen,
      minimumShouldMatch_pos hlen hpos⟩

end

/-- Every compiled tree is well formed: for the parts of the expression, the terms that the analyzer found on
its sides, and the distance and letter of its operator. -/
theorem compile_wellFormed {field raw : String} {analyzer : Analyzer} {mode : Mode} {percent : UInt32} {n : Node}
    (h : compileProximity field raw analyzer mode percent = .ok n)
    (hsize : ∀ cs m, n = .choice cs m → cs.length ≤ 9 * 10 ^ 16) :
    ∃ l op r ts us, Checked field analyzer mode raw l op r ts us ∧
      n.WellFormed field (ts ++ us) (distanceOf op) (KeepsOrder op) percent mode := by
  obtain ⟨l, op, r, ts, us, hc⟩ := checked_of_ok h
  obtain ⟨o, hcompile, hslop, horder⟩ := compileProximity_checked percent hc
  rw [hcompile] at h
  have hprovides : Expression.Provides ⟨operandOf mode (Text.trim l) ts, o, operandOf mode (Text.trim r) us⟩
      (ts ++ us) (distanceOf op) (KeepsOrder op) := by
    refine ⟨hslop, horder, ?_, ?_, ?_, ?_⟩ <;> rw [terms_operandOf]
    · exact hc.left.1
    · exact hc.right.1
    · exact fun v hv => List.mem_append_left us hv
    · exact fun v hv => List.mem_append_right ts hv
  exact ⟨l, op, r, ts, us, hc, hprovides.wellFormed h hsize⟩

theorem compile_wellFormed_loose :
    compileProximity "title" "quick fox N02 lazy dog" Analysis.whitespace .looseTerms 50 =
      .ok (.choice [.optional (.ofTerm "title" "quick"),
        .optional (.span (.near [.ofTerm "title" "fox", .ofTerm "title" "lazy"] 2 false)),
        .optional (.ofTerm "title" "dog")] 2) ∧
    ∃ l op r ts us, Checked "title" Analysis.whitespace .looseTerms "quick fox N02 lazy dog" l op r ts us ∧
      Node.WellFormed "title" (ts ++ us) (distanceOf op) (KeepsOrder op) 50 .looseTerms
        (.choice [.optional (.ofTerm "title" "quick"),
          .optional (.span (.near [.ofTerm "title" "fox", .ofTerm "title" "lazy"] 2 false)),
          .optional (.ofTerm "title" "dog")] 2) := by
  refine ⟨rfl, compile_wellFormed rfl ?_⟩
  intro cs m hn
  obtain ⟨rfl, -⟩ := Node.choice.inj hn
  decide

end Proximity
