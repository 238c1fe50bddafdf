import Proximity.Expression.Mode
import Proximity.Expression.Operand
import Proximity.Proofs.Text.Trim

/-! What an analyzer reads of a side, and what becomes of its answer. A side between double quotes is handed
over without them where the mode knows phrases, every other side as it stands. -/
namespace Proximity
set_option autoImplicit false

/-- A text of two or more characters that begins and ends with a double quote. -/
def IsQuoted (side : List Char) : Prop :=
  2 ≤ side.length ∧ side.head? = some '"' ∧ side.getLast? = some '"'

instance (side : List Char) : Decidable (IsQuoted side) := inferInstanceAs (Decidable (_ ∧ _))

/-- The text of a side that an analyzer reads. -/
def handedText (mode : Mode) (side : List Char) : List Char :=
  if mode = .phraseAware ∧ IsQuoted side then side.tail.dropLast else side

/-- The operand that the terms of a side make. -/
def operandOf (mode : Mode) (side : List Char) (ts : List String) : Operand :=
  if mode = .phraseAware ∧ IsQuoted side then .phrase ts else .termSet ts

@[simp] theorem terms_operandOf (mode : Mode) (side : List Char) (ts : List String) :
    (operandOf mode side ts).terms = ts := by
  unfold operandOf
  split <;> rfl

theorem operandOf_looseTerms (side : List Char) (ts : List String) :
    operandOf .looseTerms side ts = .termSet ts := if_neg fun h => nomatch h.1

theorem handedText_looseTerms (side : List Char) : handedText .looseTerms side = side :=
  if_neg fun h => nomatch h.1

theorem handedText_isInfix (mode : Mode) (side : List Char) : handedText mode side <:+: side := by
  unfold handedText
  split
  · exact (List.dropLast_prefix _).isInfix.trans (List.tail_suffix _).isInfix
  · exact List.infix_rfl

/-! ## Quotes -/

theorem unquoted_eq (side : List Char) :
    unquoted? side = if IsQuoted side then some side.tail.dropLast else none := by
  unfold unquoted?
  split
  · next rest =>
    cases rest with
    | nil => rfl
    | cons c rest =>
      simp only [IsQuoted, List.length_cons, List.head?_cons, List.getLast?_cons_cons, List.tail_cons]
      by_cases hlast : (c :: rest).getLast? = some '"' <;> simp [hlast]
  · next hhead =>
    rw [if_neg]
    rintro ⟨-, hq, -⟩
    cases side with
    | nil => cases hq
    | cons c rest =>
      obtain rfl : c = '"' := Option.some.inj hq
      exact hhead rest rfl

theorem phraseText_eq (mode : Mode) (side : List Char) :
    phraseText? mode.recognizesPhrases side =
      if mode = .phraseAware ∧ IsQuoted side then some side.tail.dropLast else none := by
  cases mode with
  | phraseAware => simp only [phraseText?, Mode.recognizesPhrases, if_true, unquoted_eq, true_and]
  | looseTerms => simp [phraseText?, Mode.recognizesPhrases]

theorem analyzedText_eq (mode : Mode) {side : List Char} (hs : Text.Bare side) :
    analyzedText mode.recognizesPhrases (String.ofList side) = String.ofList (handedText mode side) := by
  simp only [analyzedText, String.toList_ofList, Text.trim_of_bare hs, phraseText_eq, handedText]
  split <;> rfl

/-! ## Analysis of one side -/

section
variable (field : String) (analyzer : Analyzer) (mode : Mode)

/-- The analyzer finds the terms `ts`, at least one, on a side. -/
def SideTerms (side : List Char) (ts : List String) : Prop :=
  ts ≠ [] ∧ analyzer field (String.ofList (handedText mode side)) = .ok ts

/-- A side is refused: its analysis fails, or finds no term. -/
inductive SideRefused (side : List Char) : Refusal → Prop
  | analysis {e : AnalysisError} (h : analyzer field (String.ofList (handedText mode side)) = .error e) :
      SideRefused side (.analysis e)
  | empty (h : analyzer field (String.ofList (handedText mode side)) = .ok []) :
      SideRefused side (.malformedAt .emptyOperand (String.ofList side))

theorem side_terms_or_refused (side : List Char) :
    (∃ ts, SideTerms field analyzer mode side ts) ∨ ∃ e, SideRefused field analyzer mode side e := by
  cases h : analyzer field (String.ofList (handedText mode side)) with
  | error e => exact .inr ⟨_, .analysis h⟩
  | ok ts =>
    cases ts with
    | nil => exact .inr ⟨_, .empty h⟩
    | cons t ts => exact .inl ⟨t :: ts, List.cons_ne_nil t ts, h⟩

variable {field analyzer mode}

theorem classify_terms {side : List Char} {ts : List String} (hs : Text.Bare side)
    (h : SideTerms field analyzer mode side ts) :
    Operand.classify field (String.ofList side) analyzer mode.recognizesPhrases =
      .ok (operandOf mode side ts) := by
  obtain ⟨hne, h⟩ := h
  obtain ⟨t, ts, rfl⟩ := List.exists_cons_of_ne_nil hne
  simp only [Operand.classify, analyzedText_eq mode hs, h, String.toList_ofList, Text.trim_of_bare hs,
    phraseText_eq, operandOf]
  split <;> rfl

theorem classify_refused {side : List Char} {e : Refusal} (hs : Text.Bare side)
    (h : SideRefused field analyzer mode side e) :
    Operand.classify field (String.ofList side) analyzer mode.recognizesPhrases = .error e := by
  cases h with
  | analysis h => simp only [Operand.classify, analyzedText_eq mode hs, h]
  | empty h =>
    simp only [Operand.classify, analyzedText_eq mode hs, h, String.toList_ofList, Text.trim_of_bare hs]

end

end Proximity
