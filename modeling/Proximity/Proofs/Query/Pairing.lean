import Mathlib
import Proximity.Expression.Compile

/-! The pairings of an expression by position. They are listed by the left alternative first, so a left
alternative at `i` and a right one at `j` meet at `i` times the number of right ones, plus `j`.

* `Operand.alternatives`: what a side offers, as one list whether it is fixed or not.
* `span_of_fixed`, `span_of_not_fixed`: the spans of two sides are pairings of their alternatives.
* `AlternativeAt`: the alternatives of an operand by position, and `Operand.width` their number.
* `getElem?_pairings_iff`: at each position stands one pairing, and none is left out.
* `compile_crossProduct`: what phrase-aware compiling makes of an expression. -/
namespace Proximity
set_option autoImplicit false

theorem pairings_cons (op : Operator) (x : Span) (xs ys : List Span) :
    op.pairings (x :: xs) ys = ys.map (op.pair x) ++ op.pairings xs ys := rfl

theorem pairings_singleton_left (op : Operator) (x : Span) (ys : List Span) :
    op.pairings [x] ys = ys.map fun y => op.pair x y := List.append_nil _

theorem pairings_singleton_right (op : Operator) (xs : List Span) (y : Span) :
    op.pairings xs [y] = xs.map fun x => op.pair x y := List.map_eq_flatMap.symm

theorem length_pairings (op : Operator) (xs ys : List Span) :
    (op.pairings xs ys).length = xs.length * ys.length := by
  induction xs with
  | nil => simp [Operator.pairings]
  | cons x xs ih =>
    rw [pairings_cons, List.length_append, List.length_map, ih, List.length_cons, Nat.succ_mul]
    omega

theorem getElem?_pairings (op : Operator) {xs ys : List Span} {i j : ℕ} {x y : Span} (hx : xs[i]? = some x)
    (hy : ys[j]? = some y) : (op.pairings xs ys)[i * ys.length + j]? = some (op.pair x y) := by
  have hj : j < ys.length := (List.getElem?_eq_some_iff.mp hy).1
  induction xs generalizing i with
  | nil => cases hx
  | cons z xs ih =>
    rw [pairings_cons]
    cases i with
    | zero =>
      obtain rfl := Option.some.inj hx
      rw [Nat.zero_mul, Nat.zero_add, List.getElem?_append_left (by rw [List.length_map]; exact hj),
        List.getElem?_map, hy]
      rfl
    | succ i =>
      have hlen : (ys.map (op.pair z)).length ≤ (i + 1) * ys.length + j := by
        rw [List.length_map, Nat.succ_mul]
        omega
      have hrest : (i + 1) * ys.length + j - (ys.map (op.pair z)).length = i * ys.length + j := by
        rw [List.length_map, Nat.succ_mul]
        omega
      rw [List.getElem?_append_right hlen, hrest]
      exact ih hx

theorem getElem?_pairings_iff (op : Operator) (xs ys : List Span) (k : ℕ) (s : Span) :
    (op.pairings xs ys)[k]? = some s ↔
      ∃ i j x y, xs[i]? = some x ∧ ys[j]? = some y ∧ k = i * ys.length + j ∧ s = op.pair x y := by
  constructor
  · intro hs
    have hk : k < xs.length * ys.length := by
      rw [← length_pairings op]
      exact (List.getElem?_eq_some_iff.mp hs).1
    have hys : 0 < ys.length := Nat.pos_of_ne_zero fun h => by simp [h] at hk
    have hi : k / ys.length < xs.length := (Nat.div_lt_iff_lt_mul hys).mpr hk
    have hj : k % ys.length < ys.length := Nat.mod_lt k hys
    have hx : xs[k / ys.length]? = some xs[k / ys.length] := List.getElem?_eq_getElem hi
    have hy : ys[k % ys.length]? = some ys[k % ys.length] := List.getElem?_eq_getElem hj
    have hplace : k / ys.length * ys.length + k % ys.length = k := Nat.div_add_mod' k ys.length
    have hpair := getElem?_pairings op hx hy
    rw [hplace, hs] at hpair
    exact ⟨_, _, _, _, hx, hy, hplace.symm, Option.some.inj hpair⟩
  · rintro ⟨i, j, x, y, hx, hy, rfl, rfl⟩
    exact getElem?_pairings op hx hy

/-! ## Alternatives -/

/-- The spans that stand for an operand: one for a phrase, one for each term of a term set. -/
def Operand.alternatives (field : String) : Operand → List Span
  | .phrase ts => [Span.phrase field ts]
  | .termSet ts => ts.map (Span.ofTerm field)

/-- Whether an operand has exactly one alternative by its form. -/
def Operand.isFixed : Operand → Bool
  | .phrase _ => true
  | .termSet ts => ts.length = 1

theorem side_of_fixed (field : String) {o : Operand} (h : o.isFixed = true) :
    ∃ s, o.side field = .fixed s ∧ o.alternatives field = [s] := by
  cases o with
  | phrase ts => exact ⟨_, rfl, rfl⟩
  | termSet ts =>
    obtain ⟨t, rfl⟩ := List.length_eq_one_iff.mp (of_decide_eq_true h)
    exact ⟨_, rfl, rfl⟩

theorem side_of_not_fixed (field : String) {o : Operand} (h : o.isFixed = false) :
    o.side field = .candidates (o.alternatives field) := by
  match o, h with
  | .termSet [], _ => rfl
  | .termSet (_ :: _ :: _), _ => rfl

/-- The spans that stand for an operand, by position: the phrase of a phrase, and each term of a term set. -/
inductive AlternativeAt (field : String) : Operand → ℕ → Span → Prop
  | phrase (ts : List String) :
      AlternativeAt field (.phrase ts) 0 (.near (ts.map fun t => .term ⟨field, t⟩) 0 true)
  | term {ts : List String} {i : ℕ} {t : String} (h : ts[i]? = some t) :
      AlternativeAt field (.termSet ts) i (.term ⟨field, t⟩)

/-- The number of alternatives of an operand. -/
def Operand.width : Operand → ℕ
  | .phrase _ => 1
  | .termSet ts => ts.length

/-- The operands that have one alternative by their form. -/
inductive Operand.IsFixed : Operand → Prop
  | phrase (ts : List String) : IsFixed (.phrase ts)
  | term (t : String) : IsFixed (.termSet [t])

theorem Operand.isFixed_iff (o : Operand) : o.isFixed = true ↔ o.IsFixed := by
  cases o with
  | phrase ts => exact ⟨fun _ => .phrase ts, fun _ => rfl⟩
  | termSet ts =>
    constructor
    · intro h
      obtain ⟨t, rfl⟩ := List.length_eq_one_iff.mp (of_decide_eq_true h)
      exact .term t
    · rintro ⟨⟩
      rfl

theorem length_alternatives (field : String) (o : Operand) : (o.alternatives field).length = o.width := by
  cases o with
  | phrase ts => rfl
  | termSet ts => exact List.length_map ..

theorem alternativeAt_iff {field : String} {o : Operand} {i : ℕ} {s : Span} :
    AlternativeAt field o i s ↔ (o.alternatives field)[i]? = some s := by
  cases o with
  | phrase ts =>
    constructor
    · rintro ⟨⟩
      rfl
    · intro h
      obtain ⟨rfl, rfl⟩ : i = 0 ∧ Span.phrase field ts = s := by
        simpa [Operand.alternatives, List.getElem?_singleton] using h
      exact .phrase ts
  | termSet ts =>
    rw [Operand.alternatives, List.getElem?_map, Option.map_eq_some_iff]
    constructor
    · rintro ⟨⟩
      exact ⟨_, ‹_›, rfl⟩
    · rintro ⟨t, ht, rfl⟩
      exact .term ht

theorem Operand.IsFixed.exists_alternative {o : Operand} (h : o.IsFixed) (field : String) :
    ∃ s, AlternativeAt field o 0 s := by
  cases h with
  | phrase ts => exact ⟨_, .phrase ts⟩
  | term t => exact ⟨_, .term rfl⟩

/-! ## The span of an expression -/

section
variable {field : String} {e : Expression}

theorem span_of_fixed (hl : e.left.isFixed = true) (hr : e.right.isFixed = true) {pair : Span}
    (hpair : (e.operator.pairings (e.left.alternatives field) (e.right.alternatives field))[0]? = some pair) :
    e.span field = pair := by
  obtain ⟨x, hx, hxs⟩ := side_of_fixed field hl
  obtain ⟨y, hy, hys⟩ := side_of_fixed field hr
  rw [hxs, hys] at hpair
  simp only [Expression.span, hx, hy]
  exact Option.some.inj hpair

theorem span_of_not_fixed (h : ¬ (e.left.isFixed = true ∧ e.right.isFixed = true)) :
    e.span field =
      .anyOf (e.operator.pairings (e.left.alternatives field) (e.right.alternatives field)) := by
  cases hl : e.left.isFixed with
  | true =>
    obtain ⟨x, hx, hxs⟩ := side_of_fixed field hl
    have hy := side_of_not_fixed field (Bool.eq_false_of_not_eq_true fun hr => h ⟨hl, hr⟩)
    simp only [Expression.span, hx, hy, hxs, pairings_singleton_left]
  | false =>
    have hx := side_of_not_fixed field hl
    cases hr : e.right.isFixed with
    | true =>
      obtain ⟨y, hy, hys⟩ := side_of_fixed field hr
      simp only [Expression.span, hx, hy, hys, pairings_singleton_right]
    | false => simp only [Expression.span, hx, side_of_not_fixed field hr]

variable (field e) in
/-- One of the pairings, or any of them. -/
theorem span_cases :
    (∃ pair ∈ e.operator.pairings (e.left.alternatives field) (e.right.alternatives field), e.span field = pair) ∨
      e.span field = .anyOf (e.operator.pairings (e.left.alternatives field) (e.right.alternatives field)) := by
  by_cases h : e.left.isFixed = true ∧ e.right.isFixed = true
  · obtain ⟨x, -, hx⟩ := side_of_fixed field h.1
    obtain ⟨y, -, hy⟩ := side_of_fixed field h.2
    have hpairs : e.operator.pairings (e.left.alternatives field) (e.right.alternatives field) =
        [e.operator.pair x y] := by rw [hx, hy]; rfl
    refine .inl ⟨e.operator.pair x y, ?_, span_of_fixed h.1 h.2 (by rw [hpairs]; rfl)⟩
    rw [hpairs]
    exact List.mem_singleton_self _
  · exact .inr (span_of_not_fixed h)

end

/-- Phrase-aware compiling never fails and does not depend on the percentage. Two fixed sides make one pairing, all
others a choice of the pairings of their alternatives, each at its place. -/
theorem compile_crossProduct (field : String) (e : Expression) :
    ∃ span, (∀ percent, e.compile field .phraseAware percent = .ok (.span span)) ∧
      (e.left.IsFixed ∧ e.right.IsFixed → ∃ x y, AlternativeAt field e.left 0 x ∧ AlternativeAt field e.right 0 y ∧
        span = .near [x, y] e.operator.distance e.operator.order.inOrder) ∧
      (¬ (e.left.IsFixed ∧ e.right.IsFixed) → ∃ spans, span = .anyOf spans ∧
        spans.length = e.left.width * e.right.width ∧
        ∀ k s, spans[k]? = some s ↔ ∃ i j x y, AlternativeAt field e.left i x ∧ AlternativeAt field e.right j y ∧
          k = i * e.right.width + j ∧ s = .near [x, y] e.operator.distance e.operator.order.inOrder) := by
  refine ⟨e.span field, fun percent => rfl, ?_, ?_⟩
  · rintro ⟨hl, hr⟩
    obtain ⟨x, hx⟩ := hl.exists_alternative field
    obtain ⟨y, hy⟩ := hr.exists_alternative field
    have hpair := getElem?_pairings e.operator (alternativeAt_iff.mp hx) (alternativeAt_iff.mp hy)
    rw [Nat.zero_mul] at hpair
    exact ⟨x, y, hx, hy, span_of_fixed ((Operand.isFixed_iff _).mpr hl) ((Operand.isFixed_iff _).mpr hr) hpair⟩
  · intro hfixed
    rw [← Operand.isFixed_iff, ← Operand.isFixed_iff] at hfixed
    refine ⟨_, span_of_not_fixed hfixed, ?_, fun k s => ?_⟩
    · rw [length_pairings, length_alternatives, length_alternatives]
    · simp only [getElem?_pairings_iff, length_alternatives, alternativeAt_iff]
      rfl

/-- A repeated term is paired twice, with an empty phrase too, and a single term makes one pairing with it. -/
theorem compile_crossProduct_repeated :
    ¬ ((Operand.termSet ["a", "a"]).IsFixed ∧ (Operand.phrase []).IsFixed) ∧
    (∃ spans, (∀ percent, Expression.compile "t" ⟨.termSet ["a", "a"], ⟨.unordered, 2⟩, .phrase []⟩ .phraseAware
        percent = .ok (.span (.anyOf spans))) ∧ spans.length = 2 ∧
      ∀ k < 2, spans[k]? = some (.near [.term ⟨"t", "a"⟩, .near [] 0 true] 2 false)) ∧
    (Operand.termSet ["a"]).IsFixed ∧
    ∀ percent, Expression.compile "t" ⟨.termSet ["a"], ⟨.unordered, 2⟩, .phrase []⟩ .phraseAware percent =
      .ok (.span (.near [.term ⟨"t", "a"⟩, .near [] 0 true] 2 false)) := by
  have hfree : ¬ ((Operand.termSet ["a", "a"]).IsFixed ∧ (Operand.phrase []).IsFixed) := nofun
  refine ⟨hfree, ?_, .term "a", ?_⟩
  · obtain ⟨span, hspan, -, hspans⟩ := compile_crossProduct "t" ⟨.termSet ["a", "a"], ⟨.unordered, 2⟩, .phrase []⟩
    obtain ⟨spans, rfl, hlength, hplaces⟩ := hspans hfree
    refine ⟨spans, hspan, hlength, fun k hk => (hplaces k _).mpr ⟨k, 0, _, _, .term ?_, .phrase [], ?_, rfl⟩⟩
    · interval_cases k <;> rfl
    · exact (Nat.mul_one k).symm
  · obtain ⟨span, hspan, hpair, -⟩ := compile_crossProduct "t" ⟨.termSet ["a"], ⟨.unordered, 2⟩, .phrase []⟩
    obtain ⟨x, y, hx, hy, rfl⟩ := hpair ⟨.term "a", .phrase []⟩
    obtain rfl := Option.some.inj (alternativeAt_iff.mp hx)
    obtain rfl := Option.some.inj (alternativeAt_iff.mp hy)
    exact hspan

end Proximity
