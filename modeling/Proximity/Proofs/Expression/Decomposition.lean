import Proximity.Expression.Split
import Proximity.Proofs.Text.Trim

/-! The grammar of an expression and the cut that splitting makes. A text may be cut in many ways into a
left side, an operator and a right side.

* `Decomposition t l op r`: a cut of `t` with an operator in the middle and nothing empty.
* `GreedyDecomposition`: the cut with the longest left side and, among those, the longest operator.
* `OperatorAt t p`: at `p` a letter, then a digit, then at least one more character.
* `greedy_iff` says by the neighbourhood of its operator alone whether a cut is the greedy one. -/
namespace Proximity
set_option autoImplicit false

/-- The letters of operators. -/
def operatorLetters : List Char := ['w', 'W', 'n', 'N']

/-- A letter and at least one digit behind it. -/
def IsOperator (op : List Char) : Prop :=
  ∃ c ds, op = c :: ds ∧ c ∈ operatorLetters ∧ ds ≠ [] ∧ ∀ d ∈ ds, d.isDigit = true

/-- A cut of a text with an operator between two sides, none of them empty. -/
structure Decomposition (t l op r : List Char) : Prop where
  append : t = l ++ op ++ r
  left : l ≠ []
  operator : IsOperator op
  right : r ≠ []

/-- The cut with the longest left side and, among those, the longest operator. -/
structure GreedyDecomposition (t l op r : List Char) : Prop extends Decomposition t l op r where
  longest : ∀ l' op' r', Decomposition t l' op' r' →
    l'.length < l.length ∨ l'.length = l.length ∧ op'.length ≤ op.length

/-- At a position of a text stand a letter, a digit and some further character. -/
def OperatorAt (t : List Char) (p : ℕ) : Prop :=
  ∃ c d x rest, t.drop p = c :: d :: x :: rest ∧ c ∈ operatorLetters ∧ d.isDigit = true

/-- A text in front of which a run of digits ends, unless the text is a last digit alone. -/
def EndsRun (r : List Char) : Prop := ∀ d r', r = d :: r' → d.isDigit = true → r' = []

/-! ## Letters, digits and blanks -/

theorem isOperatorLetter_iff (c : Char) : isOperatorLetter c = true ↔ c ∈ operatorLetters := by
  simp only [isOperatorLetter, SpanOrder.ofLetter?, operatorLetters, List.mem_cons, List.not_mem_nil, or_false]
  split
  · next h => rcases h with rfl | rfl <;> decide
  · split
    · next h => rcases h with rfl | rfl <;> decide
    · simp_all

theorem not_letter_of_digit {d : Char} (h : d.isDigit = true) : d ∉ operatorLetters := by
  intro hd
  simp only [operatorLetters, List.mem_cons, List.not_mem_nil, or_false] at hd
  rcases hd with rfl | rfl | rfl | rfl <;> exact absurd h (by decide)

theorem not_letter_of_blank {c : Char} (h : Text.isBlank c = true) : c ∉ operatorLetters := by
  intro hc
  simp only [operatorLetters, List.mem_cons, List.not_mem_nil, or_false] at hc
  rcases hc with rfl | rfl | rfl | rfl <;> exact absurd h (by decide)

theorem not_digit_of_blank {c : Char} (h : Text.isBlank c = true) : c.isDigit = false := by
  by_contra hd
  have hr : 48 ≤ c.val ∧ c.val ≤ 57 := by simpa [Char.isDigit] using hd
  have hlow : 48 ≤ c.toNat := hr.1
  have hhigh : c.toNat ≤ 57 := hr.2
  have hno : Text.isBlank c = false := by
    simp only [Text.isBlank, Text.blank, Text.inRanges]
    repeat rw [if_neg (by omega)]
    rw [if_pos (by omega)]
  exact absurd h (by rw [hno]; exact Bool.false_ne_true)

theorem endsRun_of_blank {s : List Char} (hs : Text.AllBlank s) (hne : s ≠ []) (r : List Char) :
    EndsRun (s ++ r) := by
  intro d r' he hd
  cases s with
  | nil => exact absurd rfl hne
  | cons c s =>
    obtain ⟨rfl, -⟩ := List.cons.inj he
    rw [not_digit_of_blank (hs c (List.mem_cons_self ..))] at hd
    exact Bool.noConfusion hd

/-! ## Positions of operators -/

theorem operatorAt_cons_succ (c : Char) (cs : List Char) (p : ℕ) :
    OperatorAt (c :: cs) (p + 1) ↔ OperatorAt cs p := Iff.rfl

theorem operatorAt_cons_zero (c : Char) (cs : List Char) :
    OperatorAt (c :: cs) 0 ↔
      c ∈ operatorLetters ∧ ∃ d x rest, cs = d :: x :: rest ∧ d.isDigit = true := by
  constructor
  · rintro ⟨c', d, x, rest, he, hc, hd⟩
    obtain ⟨rfl, rfl⟩ := List.cons.inj he
    exact ⟨hc, d, x, rest, rfl, hd⟩
  · rintro ⟨hc, d, x, rest, rfl, hd⟩
    exact ⟨c, d, x, rest, rfl, hc, hd⟩

theorem operatorAt_append (a b : List Char) (p : ℕ) : OperatorAt (a ++ b) (a.length + p) ↔ OperatorAt b p := by
  rw [OperatorAt, OperatorAt, List.drop_length_add_append]

/-- Characters that are no letters add no operator in front of a text. -/
theorem not_operatorAt_append {a b : List Char} (ha : ∀ c ∈ a, c ∉ operatorLetters)
    (hb : ∀ p, ¬ OperatorAt b p) (p : ℕ) : ¬ OperatorAt (a ++ b) p := by
  induction a generalizing p with
  | nil => exact hb p
  | cons c a ih =>
    cases p with
    | zero =>
      intro h
      exact ha c (List.mem_cons_self ..) ((operatorAt_cons_zero c (a ++ b)).mp h).1
    | succ p => exact ih (fun x hx => ha x (List.mem_cons_of_mem c hx)) p

theorem Decomposition.operator_isInfix {t l op r : List Char} (h : Decomposition t l op r) : op <:+: t :=
  ⟨l, r, h.append.symm⟩

theorem Decomposition.sides_isInfix {t l op r : List Char} (h : Decomposition t l op r) :
    Text.trim l <:+: t ∧ Text.trim r <:+: t := by
  have hl : l <:+: t := ⟨[], op ++ r, by rw [h.append]; simp⟩
  have hr : r <:+: t := ⟨l ++ op, [], by rw [h.append]; simp⟩
  exact ⟨(Text.trim_isInfix l).trans hl, (Text.trim_isInfix r).trans hr⟩

theorem Decomposition.operatorAt {t l op r : List Char} (h : Decomposition t l op r) :
    OperatorAt t l.length := by
  obtain ⟨c, ds, rfl, hc, hne, hds⟩ := h.operator
  obtain ⟨d, ds, rfl⟩ := List.exists_cons_of_ne_nil hne
  obtain ⟨x, rest, hx⟩ := List.exists_cons_of_ne_nil (List.append_ne_nil_of_right_ne_nil ds h.right)
  refine ⟨c, d, x, rest, ?_, hc, hds d (List.mem_cons_self ..)⟩
  rw [h.append, List.append_assoc, List.drop_left, List.cons_append, List.cons_append, hx]

theorem OperatorAt.decomposition {t : List Char} {p : ℕ} (h : OperatorAt t p) (hp : 1 ≤ p) :
    ∃ op r, Decomposition t (t.take p) op r := by
  obtain ⟨c, d, x, rest, ht, hc, hd⟩ := h
  refine ⟨[c, d], x :: rest, ?_, ?_, ⟨c, [d], rfl, hc, List.cons_ne_nil d [], ?_⟩, List.cons_ne_nil x rest⟩
  · rw [List.append_assoc]
    change t = t.take p ++ (c :: d :: x :: rest)
    rw [← ht, List.take_append_drop]
  · intro hnil
    rcases List.take_eq_nil_iff.mp hnil with h0 | h0
    · omega
    · subst h0
      rw [List.drop_nil] at ht
      cases ht
  · intro e he
    rw [List.mem_singleton.mp he]
    exact hd

/-! ## The greedy cut by its ends -/

theorem GreedyDecomposition.endsRun {t l op r : List Char} (h : GreedyDecomposition t l op r) : EndsRun r := by
  intro d r' hr hd
  by_contra hne
  obtain ⟨c, ds, rfl, hc, -, hds⟩ := h.operator
  have hlonger : Decomposition t l (c :: (ds ++ [d])) r' := by
    refine ⟨?_, h.left, ⟨c, ds ++ [d], rfl, hc, by simp, ?_⟩, hne⟩
    · rw [h.append, hr]
      simp
    · intro e he
      rcases List.mem_append.mp he with he | he
      · exact hds e he
      · rw [List.mem_singleton.mp he]
        exact hd
  rcases h.longest _ _ _ hlonger with hl | ⟨-, hop⟩
  · omega
  · simp only [List.length_cons, List.length_append, List.length_nil] at hop
    omega

theorem GreedyDecomposition.last {t l op r : List Char} (h : GreedyDecomposition t l op r) {p : ℕ}
    (hp : l.length < p) : ¬ OperatorAt t p := by
  intro hat
  obtain ⟨op', r', hd⟩ := hat.decomposition (by omega)
  obtain ⟨c, d, x, rest, ht, -, -⟩ := hat
  have hlen : p ≤ t.length := by
    have := congrArg List.length ht
    simp only [List.length_drop, List.length_cons] at this
    omega
  rcases h.longest _ _ _ hd with hl | ⟨hl, -⟩ <;>
    · rw [List.length_take_of_le hlen] at hl
      omega

/-- A cut is greedy if no operator stands further right and its digits cannot be extended. -/
theorem greedy_iff {t l op r : List Char} :
    GreedyDecomposition t l op r ↔
      Decomposition t l op r ∧ EndsRun r ∧ ∀ p, l.length < p → ¬ OperatorAt t p := by
  constructor
  · intro h
    exact ⟨h.toDecomposition, h.endsRun, fun p hp => h.last hp⟩
  · rintro ⟨h, hrun, hlast⟩
    refine ⟨h, fun l' op' r' h' => ?_⟩
    have hle : l'.length ≤ l.length := Nat.le_of_not_lt fun hlt => hlast _ hlt h'.operatorAt
    rcases Nat.lt_or_eq_of_le hle with hlt | heq
    · exact .inl hlt
    refine .inr ⟨heq, Nat.le_of_not_lt fun hlonger => ?_⟩
    -- a longer operator at the same place would begin the right side with a digit and leave more than it
    have hsplit : op' ++ r' = op ++ r := by
      have he := h'.append.symm.trans h.append
      rw [List.append_assoc, List.append_assoc] at he
      exact (List.append_inj he heq).2
    obtain ⟨x, hx⟩ := List.prefix_of_prefix_length_le (List.prefix_append op r)
      (hsplit ▸ List.prefix_append op' r') hlonger.le
    have hr : x ++ r' = r := by
      rw [← hx, List.append_assoc] at hsplit
      exact List.append_cancel_left hsplit
    obtain ⟨d, x, rfl⟩ := List.exists_cons_of_ne_nil (l := x) (by
      rintro rfl
      rw [List.append_nil] at hx
      rw [hx] at hlonger
      omega)
    have hdigit : d.isDigit = true := by
      obtain ⟨c', ds', hop', -, -, hds'⟩ := h'.operator
      obtain ⟨c, ds, rfl, -, -, -⟩ := h.operator
      rw [hop', List.cons_append] at hx
      apply hds'
      rw [← (List.cons.inj hx).2]
      exact List.mem_append_right ds (List.mem_cons_self ..)
    have hnil := hrun d (x ++ r') hr.symm hdigit
    exact h'.right (List.append_eq_nil_iff.mp hnil).2

theorem GreedyDecomposition.unique {t l op r l' op' r' : List Char} (h : GreedyDecomposition t l op r)
    (h' : GreedyDecomposition t l' op' r') : l = l' ∧ op = op' ∧ r = r' := by
  have hlen := h.longest _ _ _ h'.toDecomposition
  have hlen' := h'.longest _ _ _ h.toDecomposition
  have he := h.append.symm.trans h'.append
  rw [List.append_assoc, List.append_assoc] at he
  obtain ⟨hl, hrest⟩ := List.append_inj he (by omega)
  obtain ⟨hop, hr⟩ := List.append_inj hrest (by omega)
  exact ⟨hl, hop, hr⟩

/-- An operator with blanks behind it is where a text is cut, if no operator stands in what follows. -/
theorem greedy_of_blank {l op s r : List Char} (hl : l ≠ []) (hop : IsOperator op) (hs : Text.AllBlank s)
    (hsne : s ≠ []) (hr : ∀ p, ¬ OperatorAt r p) :
    GreedyDecomposition (l ++ op ++ (s ++ r)) l op (s ++ r) := by
  have hcut : Decomposition (l ++ op ++ (s ++ r)) l op (s ++ r) :=
    ⟨rfl, hl, hop, List.append_ne_nil_of_left_ne_nil hsne r⟩
  refine greedy_iff.mpr ⟨hcut, endsRun_of_blank hs hsne r, fun p hp => ?_⟩
  obtain ⟨c, ds, rfl, -, -, hds⟩ := hop
  obtain ⟨q, rfl⟩ : ∃ q, p = l.length + (q + 1) := ⟨p - l.length - 1, by omega⟩
  rw [List.append_assoc, operatorAt_append, List.cons_append, operatorAt_cons_succ, ← List.append_assoc]
  refine not_operatorAt_append (fun x hx => ?_) hr q
  rcases List.mem_append.mp hx with hx | hx
  · exact not_letter_of_digit (hds x hx)
  · exact not_letter_of_blank (hs x hx)

/-- The digits behind the character at a position. -/
def digitRun (t : List Char) (p : ℕ) : List Char := (t.drop (p + 1)).takeWhile Char.isDigit

/-- The digits of a greedy operator are the whole run, or all but the last of a run that ends the text. -/
theorem GreedyDecomposition.digits {t l op r : List Char} (h : GreedyDecomposition t l op r) :
    (l.length + 1 + (digitRun t l.length).length < t.length → op.tail = digitRun t l.length) ∧
      (l.length + 1 + (digitRun t l.length).length = t.length →
        ∃ d, op.tail ++ [d] = digitRun t l.length ∧ r = [d]) := by
  have hrun := h.endsRun
  obtain ⟨happ, -, ⟨c, ds, rfl, -, -, hds⟩, hr⟩ := h.toDecomposition
  obtain ⟨d, r', rfl⟩ := List.exists_cons_of_ne_nil hr
  have hdrop : t.drop (l.length + 1) = ds ++ d :: r' := by
    rw [happ, List.append_assoc, List.drop_length_add_append]
    rfl
  have hlen : t.length = l.length + 1 + ds.length + 1 + r'.length := by
    rw [happ]
    simp only [List.length_append, List.length_cons]
    omega
  have hdigits : digitRun t l.length = ds ++ (d :: r').takeWhile Char.isDigit := by
    rw [digitRun, hdrop, List.takeWhile_append_of_pos hds]
  by_cases hd : d.isDigit = true
  · obtain rfl := hrun d r' rfl hd
    rw [List.takeWhile_cons_of_pos hd, List.takeWhile_nil] at hdigits
    rw [hdigits, hlen]
    refine ⟨fun hlt => ?_, fun _ => ⟨d, rfl, rfl⟩⟩
    simp only [List.length_append, List.length_cons, List.length_nil] at hlt
    omega
  · rw [List.takeWhile_cons_of_neg hd, List.append_nil] at hdigits
    rw [hdigits, hlen]
    exact ⟨fun _ => rfl, fun heq => by omega⟩

end Proximity
