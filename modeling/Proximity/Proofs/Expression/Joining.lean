import Proximity.Proofs.Expression.Splitting

/-! Expressions put together from a left side, an operator and a right side, with blanks around them.

* `ofExpression_join`: the parts are found again if no operator stands in the right side.
* `not_operatorAt_side`: no operator stands in a right side that splitting returns.
* `split_join_iff`: an expression is split into the parts it was put together from exactly if no operator
  stands in the right side; hence splitting the parts of a split again changes nothing. -/
namespace Proximity
set_option autoImplicit false

/-- A side of an expression as splitting returns it: not empty, and no blank at its ends. -/
structure IsSide (side : List Char) : Prop where
  ne_nil : side ≠ []
  bare : Text.Bare side

instance (side : List Char) : Decidable (IsSide side) :=
  decidable_of_iff (side ≠ [] ∧ Text.Bare side) ⟨fun h => ⟨h.1, h.2⟩, fun h => ⟨h.1, h.2⟩⟩

/-! ## Operators in a part of a text -/

theorem OperatorAt.lt {t : List Char} {p : ℕ} (h : OperatorAt t p) : p < t.length := by
  obtain ⟨c, d, x, rest, ht, -, -⟩ := h
  have hlen := congrArg List.length ht
  rw [List.length_drop, List.length_cons] at hlen
  omega

/-- An operator inside a text is one wherever the text is put. -/
theorem OperatorAt.middle {t : List Char} {p : ℕ} (h : OperatorAt t p) (a b : List Char) :
    OperatorAt (a ++ t ++ b) (a.length + p) := by
  have hp : p ≤ t.length := h.lt.le
  obtain ⟨c, d, x, rest, ht, hc, hd⟩ := h
  rw [List.append_assoc, operatorAt_append]
  refine ⟨c, d, x, rest ++ b, ?_, hc, hd⟩
  rw [List.drop_append_of_le_length hp, ht]
  rfl

theorem IsOperator.length_pos {op : List Char} (h : IsOperator op) : 0 < op.length := by
  obtain ⟨c, ds, rfl, -, -, -⟩ := h
  exact Nat.succ_pos ds.length

/-- No operator stands in the right side of a greedy cut, so none stands in what trimming leaves of it. -/
theorem GreedyDecomposition.not_operatorAt_right {t l op r : List Char} (h : GreedyDecomposition t l op r)
    (p : ℕ) : ¬ OperatorAt (Text.trim r) p := by
  intro hat
  obtain ⟨a, b, -, -, hr⟩ := Text.exists_trim r
  have hright : OperatorAt r (a.length + p) := by
    have hmiddle := hat.middle a b
    rwa [← hr] at hmiddle
  have htext : OperatorAt t ((l ++ op).length + (a.length + p)) := by
    rw [h.append, operatorAt_append]
    exact hright
  refine h.last ?_ htext
  have hpos := h.operator.length_pos
  rw [List.length_append]
  omega

/-- What splitting returns: two sides and an operator, and no operator in the right side. -/
theorem not_operatorAt_side {raw : String} {s : Split} (h : Split.ofExpression raw = .ok s) :
    IsSide s.left.toList ∧ IsOperator s.operator.toList ∧ IsSide s.right.toList ∧
      ∀ p, ¬ OperatorAt s.right.toList p := by
  rcases greedy_or_none (Text.trim raw.toList) with ⟨l, op, r, cut⟩ | hnone
  · rw [ofExpression_of_greedy cut] at h
    obtain rfl := Except.ok.inj h
    obtain ⟨hl, hr⟩ := cut.toDecomposition.trim_ne_nil (Text.bare_trim _)
    simp only [String.toList_ofList]
    exact ⟨⟨hl, Text.bare_trim l⟩, cut.operator, ⟨hr, Text.bare_trim r⟩, cut.not_operatorAt_right⟩
  · rw [ofExpression_of_none hnone] at h
    cases h

/-! ## Splitting what was put together -/

section
variable {l op r b c : List Char} (hl : IsSide l) (hop : IsOperator op) (hr : IsSide r)
include hl hr

theorem bare_join (b op c : List Char) : Text.Bare (l ++ b ++ op ++ c ++ r) := by
  have h := Text.bare_append (b ++ op ++ c) hl.bare hr.bare hl.ne_nil hr.ne_nil
  simpa only [List.append_assoc] using h

/-- An operator in the right side is preferred, and leaves less on its right than the right side. -/
theorem ofExpression_join_ne {p : ℕ} (hat : OperatorAt r p) :
    Split.ofExpression (String.ofList (l ++ b ++ op ++ c ++ r)) ≠
      .ok ⟨String.ofList l, String.ofList op, String.ofList r⟩ := by
  intro h
  have htext : Text.trim (String.ofList (l ++ b ++ op ++ c ++ r)).toList = l ++ b ++ op ++ c ++ r := by
    rw [String.toList_ofList, Text.trim_of_bare (bare_join hl hr b op c)]
  rcases greedy_or_none (Text.trim (String.ofList (l ++ b ++ op ++ c ++ r)).toList) with
    ⟨l', op', r', cut⟩ | hnone
  · rw [ofExpression_of_greedy cut] at h
    have hright : Text.trim r' = r := String.ofList_injective (congrArg Split.right (Except.ok.inj h))
    rw [htext] at cut
    -- the greedy operator begins at the one in the right side or behind it
    have hle : (l ++ b ++ op ++ c).length + p ≤ l'.length := by
      refine Nat.le_of_not_lt fun hlt => cut.last hlt ?_
      rw [operatorAt_append]
      exact hat
    have hlen := congrArg List.length cut.append
    have hpos := cut.operator.length_pos
    have hshort := Text.length_trim_le r'
    rw [hright] at hshort
    simp only [List.length_append] at hle hlen
    omega
  · rw [ofExpression_of_none hnone] at h
    cases h

include hop

/-- The parts of an expression are found again if no operator stands in the right side. -/
theorem ofExpression_join {a d : List Char} (ha : Text.AllBlank a) (hb : Text.AllBlank b)
    (hc : Text.AllBlank c) (hne : c ≠ []) (hd : Text.AllBlank d) (hfree : ∀ p, ¬ OperatorAt r p) :
    Split.ofExpression (String.ofList (a ++ (l ++ b ++ op ++ c ++ r) ++ d)) =
      .ok ⟨String.ofList l, String.ofList op, String.ofList r⟩ := by
  have htext : Text.trim (String.ofList (a ++ (l ++ b ++ op ++ c ++ r) ++ d)).toList =
      (l ++ b) ++ op ++ (c ++ r) := by
    rw [String.toList_ofList, Text.trim_append ha (bare_join hl hr b op c) hd, List.append_assoc]
  have hcut : GreedyDecomposition (Text.trim (String.ofList (a ++ (l ++ b ++ op ++ c ++ r) ++ d)).toList)
      (l ++ b) op (c ++ r) := by
    rw [htext]
    exact greedy_of_blank (List.append_ne_nil_of_left_ne_nil hl.ne_nil b) hop hc hne hfree
  rw [ofExpression_of_greedy hcut, Text.trim_append_right hl.bare hb, Text.trim_append_left hc hr.bare]

end

/-- Splitting inverts putting together exactly if no operator stands in the right side, and none stands in a
right side that splitting returns. -/
theorem split_join_iff :
    (∀ l op r b c : List Char, IsSide l → IsOperator op → IsSide r → Text.AllBlank b → Text.AllBlank c →
      c ≠ [] →
      (Split.ofExpression (String.ofList (l ++ b ++ op ++ c ++ r)) =
        .ok ⟨String.ofList l, String.ofList op, String.ofList r⟩ ↔ ∀ p, ¬ OperatorAt r p)) ∧
    ∀ raw s, Split.ofExpression raw = .ok s →
      Split.ofExpression (s.left ++ " " ++ s.operator ++ " " ++ s.right) = .ok s := by
  refine ⟨fun l op r b c hl hop hr hb hc hne => ⟨fun h p hat => ?_, fun hfree => ?_⟩, fun raw s h => ?_⟩
  · exact ofExpression_join_ne hl hr hat h
  · have hjoin := ofExpression_join (a := []) (d := []) hl hop hr nofun hb hc hne nofun hfree
    rwa [List.append_nil, List.nil_append] at hjoin
  · obtain ⟨hl, hop, hr, hfree⟩ := not_operatorAt_side h
    have hjoin := ofExpression_join (a := []) (b := [' ']) (c := [' ']) (d := []) hl hop hr nofun
      (by decide) (by decide) (by decide) nofun hfree
    have htext : s.left ++ " " ++ s.operator ++ " " ++ s.right =
        String.ofList (s.left.toList ++ [' '] ++ s.operator.toList ++ [' '] ++ s.right.toList) := by
      apply String.toList_injective
      simp only [String.toList_append, String.toList_ofList]
      rfl
    rw [List.append_nil, List.nil_append, String.ofList_toList, String.ofList_toList, String.ofList_toList]
      at hjoin
    rw [htext]
    exact hjoin

/-- An operator that ends the right side is left there, and so is the digit that it gave away. -/
theorem split_join_lookalikes :
    IsSide "w5 fox".toList ∧ IsSide "dog n1".toList ∧ IsOperator "W10".toList ∧
    Split.ofExpression "w5 foxW10  dog n1" = .ok ⟨"w5 fox", "W10", "dog n1"⟩ ∧
    Split.ofExpression " w5n1 w10 " = .ok ⟨"w5n1", "w1", "0"⟩ ∧
    Split.ofExpression "w5n1 w1 0" = .ok ⟨"w5n1", "w1", "0"⟩ := by
  have hop : IsOperator "W10".toList := ⟨'W', ['1', '0'], rfl, by decide, by decide, List.all_eq_true.mp rfl⟩
  have hfree : ∀ p, ¬ OperatorAt "dog n1".toList p := lastOperator_none (by decide)
  have hfirst := (split_join_iff.1 "w5 fox".toList "W10".toList "dog n1".toList [] [' ', ' '] (by decide) hop
    (by decide) nofun (by decide) (by decide)).mpr hfree
  have hraw : Split.ofExpression " w5n1 w10 " = .ok ⟨"w5n1", "w1", "0"⟩ := by decide
  have hsecond := split_join_iff.2 " w5n1 w10 " ⟨"w5n1", "w1", "0"⟩ hraw
  have htext : String.ofList ("w5 fox".toList ++ [] ++ "W10".toList ++ [' ', ' '] ++ "dog n1".toList) =
      "w5 foxW10  dog n1" := by decide
  have hagain : "w5n1" ++ " " ++ "w1" ++ " " ++ "0" = "w5n1 w1 0" := by decide
  rw [htext, String.ofList_toList, String.ofList_toList, String.ofList_toList] at hfirst
  rw [hagain] at hsecond
  exact ⟨by decide, by decide, hop, hfirst, hraw, hsecond⟩

end Proximity
