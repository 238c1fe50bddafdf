import Proximity.Proofs.Expression.Decomposition

/-! What splitting finds: the greedy cut of the trimmed expression, or nothing if there is no cut at all.

The recursion of `lastOperator` carries three facts: what it returns begins with an operator, the digits of
that operator cannot be extended, and no operator stands further right. -/
namespace Proximity
set_option autoImplicit false

/-! ## The digits of an operator -/

theorem operatorDigits_eq (cs : List Char) :
    operatorDigits cs = min (cs.takeWhile Char.isDigit).length (cs.length - 1) := by
  have hlen : (cs.takeWhile Char.isDigit).length + (cs.dropWhile Char.isDigit).length = cs.length := by
    rw [← List.length_append, List.takeWhile_append_dropWhile]
  unfold operatorDigits
  split
  · next h =>
    rw [List.isEmpty_iff.mp h, List.length_nil] at hlen
    omega
  · next h =>
    have hpos := List.length_pos_iff.mpr (mt List.isEmpty_iff.mpr h)
    omega

theorem digits_take_operatorDigits (cs : List Char) :
    ∀ d ∈ cs.take (operatorDigits cs), d.isDigit = true := by
  intro d hd
  have hle : operatorDigits cs ≤ (cs.takeWhile Char.isDigit).length := by
    rw [operatorDigits_eq]
    exact Nat.min_le_left ..
  have hrun : cs.takeWhile Char.isDigit = cs.take (cs.takeWhile Char.isDigit).length :=
    List.prefix_iff_eq_take.mp (List.takeWhile_prefix Char.isDigit)
  have hmem : d ∈ cs.takeWhile Char.isDigit := by
    rw [hrun]
    exact List.take_subset_take_left cs hle hd
  exact List.mem_takeWhile_imp hmem

theorem drop_run (cs : List Char) :
    cs.drop (cs.takeWhile Char.isDigit).length = cs.dropWhile Char.isDigit := by
  calc cs.drop (cs.takeWhile Char.isDigit).length
      = (cs.takeWhile Char.isDigit ++ cs.dropWhile Char.isDigit).drop (cs.takeWhile Char.isDigit).length := by
        rw [List.takeWhile_append_dropWhile]
    _ = cs.dropWhile Char.isDigit := List.drop_left

theorem endsRun_drop_operatorDigits (cs : List Char) : EndsRun (cs.drop (operatorDigits cs)) := by
  intro d r' hr hd
  by_contra hne
  -- more than one character is left, so the run stopped before the last character and what is left
  -- begins where it stopped
  have hrun : operatorDigits cs = (cs.takeWhile Char.isDigit).length := by
    have hlen := congrArg List.length hr
    have hpos := List.length_pos_iff.mpr hne
    rw [List.length_drop, List.length_cons] at hlen
    rw [operatorDigits_eq] at hlen ⊢
    omega
  have hstop := List.head?_dropWhile_not Char.isDigit cs
  rw [← drop_run, ← hrun, hr] at hstop
  change d.isDigit = false at hstop
  rw [hd] at hstop
  exact Bool.noConfusion hstop

theorem operatorDigits_ne_zero_iff (cs : List Char) :
    operatorDigits cs ≠ 0 ↔ ∃ d x rest, cs = d :: x :: rest ∧ d.isDigit = true := by
  rw [operatorDigits_eq]
  rcases cs with _ | ⟨d, _ | ⟨x, rest⟩⟩
  · simp
  · simp
  · by_cases hd : d.isDigit = true <;> simp [hd]

/-! ## The last operator -/

theorem not_operatorAt_cons {cs : List Char} {n : ℕ} (h : ∀ q, n ≤ q → ¬ OperatorAt cs q) (c : Char) (p : ℕ)
    (hp : n < p) : ¬ OperatorAt (c :: cs) p := by
  cases p with
  | zero => exact absurd hp (Nat.not_lt_zero n)
  | succ q => exact h q (Nat.le_of_lt_succ hp)

theorem operatorInFront_none {c : Char} {cs : List Char} (h : operatorInFront (c :: cs) = none) :
    ¬ OperatorAt (c :: cs) 0 := by
  intro hat
  obtain ⟨hc, hds⟩ := (operatorAt_cons_zero c cs).mp hat
  have hz := (operatorDigits_ne_zero_iff cs).mpr hds
  have hl := (isOperatorLetter_iff c).mpr hc
  simp [operatorInFront, hl, hz] at h

theorem operatorInFront_some {t op r : List Char} (h : operatorInFront t = some (op, r)) :
    IsOperator op ∧ r ≠ [] ∧ EndsRun r := by
  cases t with
  | nil => cases h
  | cons c cs =>
    rw [operatorInFront] at h
    split at h
    · next hc =>
      obtain ⟨rfl, rfl⟩ := Prod.mk.inj (Option.some.inj h)
      obtain ⟨hletter, hz⟩ := Bool.and_eq_true_iff.mp hc
      have hz' : operatorDigits cs ≠ 0 := of_decide_eq_true hz
      have hlt : operatorDigits cs < cs.length := by
        rw [operatorDigits_eq] at hz' ⊢
        omega
      refine ⟨⟨c, _, rfl, (isOperatorLetter_iff c).mp hletter, ?_, digits_take_operatorDigits cs⟩, ?_,
        endsRun_drop_operatorDigits cs⟩
      · intro hnil
        rcases List.take_eq_nil_iff.mp hnil with h0 | h0
        · exact hz' h0
        · rw [h0] at hlt
          exact Nat.not_lt_zero _ hlt
      · intro hnil
        have := List.drop_eq_nil_iff.mp hnil
        omega
    · cases h

theorem lastOperator_none {t : List Char} (h : lastOperator t = none) (p : ℕ) : ¬ OperatorAt t p := by
  induction t generalizing p with
  | nil =>
    rintro ⟨c, d, x, rest, he, -⟩
    rw [List.drop_nil] at he
    cases he
  | cons c cs ih =>
    rw [lastOperator] at h
    split at h
    · cases h
    · next hcs =>
      cases p with
      | zero => exact operatorInFront_none (Option.map_eq_none_iff.mp h)
      | succ p => exact ih hcs p

theorem lastOperator_some {t l op r : List Char} (h : lastOperator t = some (l, op, r)) :
    IsOperator op ∧ r ≠ [] ∧ EndsRun r ∧ ∀ p, l.length < p → ¬ OperatorAt t p := by
  induction t generalizing l with
  | nil => cases h
  | cons c cs ih =>
    rw [lastOperator] at h
    split at h
    · next l' op' r' hcs =>
      obtain ⟨rfl, rfl, rfl⟩ := Option.some.inj h
      obtain ⟨hop, hr, hrun, hlast⟩ := ih hcs
      exact ⟨hop, hr, hrun, not_operatorAt_cons hlast c⟩
    · next hcs =>
      obtain ⟨⟨op', r'⟩, hfront, hparts⟩ := Option.map_eq_some_iff.mp h
      obtain ⟨rfl, rfl, rfl⟩ := hparts
      obtain ⟨hop, hr, hrun⟩ := operatorInFront_some hfront
      exact ⟨hop, hr, hrun, not_operatorAt_cons (fun q _ => lastOperator_none hcs q) c⟩

/-! ## The two ends of the text -/

theorem splitOperator_none {t : List Char} (h : splitOperator t = none) (l op r : List Char) :
    ¬ Decomposition t l op r := by
  intro hd
  cases t with
  | nil => exact hd.left (List.append_eq_nil_iff.mp (List.append_eq_nil_iff.mp hd.append.symm).1).1
  | cons c cs =>
    have hat := hd.operatorAt
    obtain ⟨n, hn⟩ := Nat.exists_eq_succ_of_ne_zero (mt List.length_eq_zero_iff.mp hd.left)
    rw [hn] at hat
    exact lastOperator_none (Option.map_eq_none_iff.mp h) n hat

theorem splitOperator_greedy {t l op r : List Char} (h : splitOperator t = some (l, op, r)) :
    GreedyDecomposition t l op r := by
  cases t with
  | nil => cases h
  | cons c cs =>
    have happend := append_of_splitOperator h
    obtain ⟨⟨l', op', r'⟩, hcs, hparts⟩ := Option.map_eq_some_iff.mp h
    obtain ⟨rfl, rfl, rfl⟩ := hparts
    obtain ⟨hop, hr, hrun, hlast⟩ := lastOperator_some hcs
    have hcut : Decomposition (c :: cs) (c :: l') op r :=
      ⟨happend.symm, List.cons_ne_nil c l', hop, hr⟩
    exact greedy_iff.mpr ⟨hcut, hrun, not_operatorAt_cons hlast c⟩

/-! ## Splitting expressions -/

theorem message_missingOperator :
    Mistake.missingOperator.message = "missing proximity operator" ++ ("; " ++ proximityUsage) := by
  rw [← String.append_assoc]
  rfl

theorem greedy_or_none (t : List Char) :
    (∃ l op r, GreedyDecomposition t l op r) ∨ ∀ l op r, ¬ Decomposition t l op r := by
  cases h : splitOperator t with
  | none => exact .inr (splitOperator_none h)
  | some parts => exact .inl ⟨parts.1, parts.2.1, parts.2.2, splitOperator_greedy h⟩

theorem ofExpression_of_none {raw : String}
    (h : ∀ l op r, ¬ Decomposition (Text.trim raw.toList) l op r) :
    Split.ofExpression raw = .error (.malformedAt .missingOperator (Text.trimmed raw)) := by
  cases hs : splitOperator (Text.trim raw.toList) with
  | none => simp only [Split.ofExpression, hs, Text.trimmed]
  | some parts => exact absurd (splitOperator_greedy hs).toDecomposition (h _ _ _)

theorem ofExpression_of_greedy {raw : String} {l op r : List Char}
    (h : GreedyDecomposition (Text.trim raw.toList) l op r) :
    Split.ofExpression raw =
      .ok ⟨String.ofList (Text.trim l), String.ofList op, String.ofList (Text.trim r)⟩ := by
  cases hs : splitOperator (Text.trim raw.toList) with
  | none => exact absurd h.toDecomposition (splitOperator_none hs l op r)
  | some parts =>
    obtain ⟨rfl, rfl, rfl⟩ := h.unique (splitOperator_greedy hs)
    simp only [Split.ofExpression, hs]

/-- The sides of a cut of a trimmed text are not blank. -/
theorem Decomposition.trim_ne_nil {t l op r : List Char} (h : Decomposition t l op r) (ht : Text.Bare t) :
    Text.trim l ≠ [] ∧ Text.trim r ≠ [] := by
  rw [h.append] at ht
  refine ⟨Text.trim_ne_nil (Text.not_allBlank_of_bare_left (x := op ++ r) ?_ h.left),
    Text.trim_ne_nil (Text.not_allBlank_of_bare_right ht h.right)⟩
  rw [← List.append_assoc]
  exact ht

/-- Splitting fails exactly on the texts that have no cut, and otherwise returns the greedy cut with its
sides trimmed. The operator is then the last letter and digit behind the first character that leave a
character on their right. -/
theorem split_greedy (raw : String) :
    ((∃ e, Split.ofExpression raw = .error e) ↔
      ¬ ∃ l op r, Decomposition (Text.trim raw.toList) l op r) ∧
    (∀ e, Split.ofExpression raw = .error e →
      e = .malformedAt .missingOperator (Text.trimmed raw) ∧
        ∃ usage, e.message = "missing proximity operator" ++ usage) ∧
    ∀ s, Split.ofExpression raw = .ok s → ∃ l op r,
      GreedyDecomposition (Text.trim raw.toList) l op r ∧
      s = ⟨String.ofList (Text.trim l), String.ofList op, String.ofList (Text.trim r)⟩ ∧
      (1 ≤ l.length ∧ OperatorAt (Text.trim raw.toList) l.length ∧
        ∀ p, l.length < p → ¬ OperatorAt (Text.trim raw.toList) p) ∧
      (l.length + 1 + (digitRun (Text.trim raw.toList) l.length).length < (Text.trim raw.toList).length →
        op.tail = digitRun (Text.trim raw.toList) l.length) ∧
      (l.length + 1 + (digitRun (Text.trim raw.toList) l.length).length = (Text.trim raw.toList).length →
        ∃ d, op.tail ++ [d] = digitRun (Text.trim raw.toList) l.length ∧ r = [d]) ∧
      s.left.toList ≠ [] ∧ Text.Bare s.left.toList ∧ s.right.toList ≠ [] ∧ Text.Bare s.right.toList := by
  rcases greedy_or_none (Text.trim raw.toList) with ⟨l, op, r, h⟩ | h
  · rw [ofExpression_of_greedy h]
    refine ⟨⟨?_, fun hno => absurd ⟨l, op, r, h.toDecomposition⟩ hno⟩, ?_, fun s hs => ?_⟩
    · rintro ⟨e, he⟩
      cases he
    · intro e he
      cases he
    obtain rfl := Except.ok.inj hs
    have hsides := h.toDecomposition.trim_ne_nil (Text.bare_trim _)
    refine ⟨l, op, r, h, rfl,
      ⟨List.length_pos_iff.mpr h.left, h.toDecomposition.operatorAt, fun p => h.last⟩,
      h.digits.1, h.digits.2, ?_⟩
    rw [String.toList_ofList, String.toList_ofList]
    exact ⟨hsides.1, Text.bare_trim l, hsides.2, Text.bare_trim r⟩
  · rw [ofExpression_of_none h]
    refine ⟨⟨?_, fun _ => ⟨_, rfl⟩⟩, fun e he => ?_, ?_⟩
    · rintro - ⟨l, op, r, hd⟩
      exact h l op r hd
    · obtain rfl := Except.error.inj he
      refine ⟨rfl, "; " ++ proximityUsage ++ (": \"" ++ Text.trimmed raw ++ "\""), ?_⟩
      rw [← String.append_assoc, ← message_missingOperator, ← String.append_assoc]
      rfl
    · intro s hs
      cases hs

/-- A run of digits at the end of the text gives its last digit to the right side, and a letter at the very
beginning is no operator. -/
example : Split.ofExpression " w5n1 w10 " = .ok ⟨"w5n1", "w1", "0"⟩ := by decide

end Proximity
