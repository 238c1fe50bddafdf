import Proximity.Proofs.Analysis.Whitespace
import Proximity.Proofs.Expression.Outcome

/-! Expressions as text. A written expression compiles to what the expression itself compiles to, under the
analyzer that cuts at blanks and provided that no later operator stands in the text of the right side.

* `Expression.written`: the terms of each side with single blanks between them, phrases between quotes, and
  the operator between the sides.
* `Operand.Writable`: the terms are tokens that survive the analyzer, and the text of a term set is not taken
  for a phrase.
* `compile_written`: the statement above. -/
namespace Proximity
set_option autoImplicit false

def Operand.written : Operand → String
  | .phrase ts => "\"" ++ spaced ts ++ "\""
  | .termSet ts => spaced ts

def Expression.written (e : Expression) : String :=
  e.left.written ++ " " ++ e.operator.text ++ " " ++ e.right.written

/-- An operand whose text a mode reads as the operand: phrases need a mode that knows them, and there a term
set must not look like one. -/
structure Operand.Writable (mode : Mode) (o : Operand) : Prop where
  terms : o.terms ≠ []
  tokens : ∀ t ∈ o.terms, IsToken t
  phrase : o.isPhrase = true → mode = .phraseAware
  plain : mode = .phraseAware → o.isPhrase = false → ¬ IsQuoted o.written.toList

/-! ## The text of a side -/

theorem toList_written_phrase (ts : List String) :
    (Operand.phrase ts).written.toList = ['"'] ++ (spaced ts).toList ++ ['"'] := by
  rw [Operand.written, String.toList_append, String.toList_append]
  rfl

theorem isQuoted_phrase (ts : List String) : IsQuoted (Operand.phrase ts).written.toList := by
  rw [toList_written_phrase]
  refine ⟨?_, rfl, List.getLast?_concat⟩
  simp only [List.length_append, List.length_cons, List.length_nil]
  omega

namespace Operand.Writable
variable {mode : Mode} {o : Operand}

theorem bare (h : o.Writable mode) : Text.Bare o.written.toList ∧ o.written.toList ≠ [] := by
  cases o with
  | phrase ts =>
    have hquote : Text.Bare ['"'] := by decide
    rw [toList_written_phrase]
    exact ⟨Text.bare_append _ hquote hquote (by decide) (by decide), by simp⟩
  | termSet ts => exact bare_spaced h.tokens h.terms

theorem quoted_iff (h : o.Writable mode) :
    (mode = .phraseAware ∧ IsQuoted o.written.toList) ↔ o.isPhrase = true := by
  cases o with
  | phrase ts => exact ⟨fun _ => rfl, fun _ => ⟨h.phrase rfl, isQuoted_phrase ts⟩⟩
  | termSet ts => exact ⟨fun hq => absurd hq.2 (h.plain hq.1 rfl), fun hp => nomatch hp⟩

theorem operandOf_written (h : o.Writable mode) : operandOf mode o.written.toList o.terms = o := by
  simp only [operandOf, h.quoted_iff]
  cases o <;> rfl

theorem handedText_written (h : o.Writable mode) :
    handedText mode o.written.toList = (spaced o.terms).toList := by
  simp only [handedText, h.quoted_iff]
  cases o with
  | phrase ts =>
    rw [if_pos (show (Operand.phrase ts).isPhrase = true from rfl), toList_written_phrase]
    exact List.dropLast_concat
  | termSet ts => rfl

theorem sideTerms (h : o.Writable mode) (field : String) :
    SideTerms field Analysis.whitespace mode o.written.toList o.terms := by
  refine ⟨h.terms, ?_⟩
  rw [h.handedText_written, String.ofList_toList]
  exact congrArg Except.ok (whitespaceTerms_spaced h.tokens)

end Operand.Writable

/-! ## The cut of a written expression -/

theorem toList_written (e : Expression) :
    e.written.toList =
      (e.left.written.toList ++ [' ']) ++ e.operator.text.toList ++ ([' '] ++ e.right.written.toList) := by
  simp only [Expression.written, String.toList_append, List.append_assoc]
  rfl

/-- Compiling a written expression compiles the expression. Operators may stand anywhere in the left side, in
the right side only where they end its text. -/
theorem compile_written (field : String) (e : Expression) (mode : Mode) (percent : UInt32)
    (hl : e.left.Writable mode) (hr : e.right.Writable mode)
    (hlast : ∀ p, ¬ OperatorAt e.right.written.toList p) :
    compileProximity field e.written Analysis.whitespace mode percent = e.compile field mode percent := by
  have htext : Text.trim e.written.toList =
      (e.left.written.toList ++ [' ']) ++ e.operator.text.toList ++ ([' '] ++ e.right.written.toList) := by
    rw [← toList_written]
    refine Text.trim_of_bare ?_
    have hb := Text.bare_append ([' '] ++ e.operator.text.toList ++ [' ']) hl.bare.1 hr.bare.1
      hl.bare.2 hr.bare.2
    simpa only [toList_written, List.append_assoc] using hb
  have hcut : GreedyDecomposition (Text.trim e.written.toList) (e.left.written.toList ++ [' '])
      e.operator.text.toList ([' '] ++ e.right.written.toList) := by
    rw [htext]
    exact greedy_of_blank (List.append_ne_nil_of_left_ne_nil hl.bare.2 _) (isOperator_text _) (by decide)
      (by decide) hlast
  have hleft : Text.trim (e.left.written.toList ++ [' ']) = e.left.written.toList :=
    Text.trim_append_right hl.bare.1 (by decide)
  have hright : Text.trim ([' '] ++ e.right.written.toList) = e.right.written.toList :=
    Text.trim_append_left (by decide) hr.bare.1
  have hop : Operator.parse (String.ofList e.operator.text.toList) = .ok e.operator := by
    rw [String.ofList_toList, parse_text]
  rw [compileProximity_parts percent hcut (hleft ▸ hl.sideTerms field) (hright ▸ hr.sideTerms field) hop,
    hleft, hright, hl.operandOf_written, hr.operandOf_written]

/-- A phrase of look-alikes on the left, and an operator that ends the right side. -/
theorem compile_written_lookalikes :
    (Operand.phrase ["w5", "n1x"]).Writable .phraseAware ∧ (Operand.termSet ["dog", "w7"]).Writable .phraseAware ∧
    (∀ p, ¬ OperatorAt (Operand.termSet ["dog", "w7"]).written.toList p) ∧
    compileProximity "title" "\"w5 n1x\" n3 dog w7" Analysis.whitespace .phraseAware 50 =
      Expression.compile "title" ⟨.phrase ["w5", "n1x"], ⟨.unordered, 3⟩, .termSet ["dog", "w7"]⟩
        .phraseAware 50 := by
  have hl : (Operand.phrase ["w5", "n1x"]).Writable .phraseAware :=
    ⟨by decide, by decide, fun _ => rfl, fun _ h => nomatch h⟩
  have hr : (Operand.termSet ["dog", "w7"]).Writable .phraseAware :=
    ⟨by decide, by decide, (fun h => nomatch h), fun _ _ => by decide⟩
  have hlast : ∀ p, ¬ OperatorAt (Operand.termSet ["dog", "w7"]).written.toList p :=
    lastOperator_none (by decide)
  have h := compile_written "title" ⟨.phrase ["w5", "n1x"], ⟨.unordered, 3⟩, .termSet ["dog", "w7"]⟩
    .phraseAware 50 hl hr hlast
  have htext : Expression.written ⟨.phrase ["w5", "n1x"], ⟨.unordered, 3⟩, .termSet ["dog", "w7"]⟩ =
      "\"w5 n1x\" n3 dog w7" := by decide
  rw [htext] at h
  exact ⟨hl, hr, hlast, h⟩

end Proximity
