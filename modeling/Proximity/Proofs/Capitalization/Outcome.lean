import Proximity.Analysis.Standard
import Proximity.Proofs.Capitalization.Grammar

/-! What becomes of a capitalization expression. The written form is checked first, then the keyword, then what
the analyzer makes of the argument; an argument with exactly one term gives a term with the payload of the
class. -/
namespace Proximity
set_option autoImplicit false

section
variable (field : String) (analyzer : Analyzer) (raw : String)

/-- The outcome of an expression, by the first check that fails, or the query if none does. -/
inductive Decided : Outcome Node → Prop
  | form (h : ∀ kind word body, ¬ Applied (Text.trim raw.toList) kind word body) :
      Decided (.error (.malformedAt .invalidCapitalization (Text.trimmed raw)))
  | keyword {kind : Capitalization} {word body : List Char} (h : Applied (Text.trim raw.toList) kind word body)
      (hs : 'ſ' ∈ word) : Decided (.error (.malformedAt .noPayload (String.ofList word)))
  | analysis {kind : Capitalization} {word body : List Char} {e : AnalysisError}
      (h : Applied (Text.trim raw.toList) kind word body) (hs : 'ſ' ∉ word)
      (ha : analyzer field (String.ofList (Text.trim body)) = .error e) : Decided (.error (.analysis e))
  | several {kind : Capitalization} {word body : List Char} {ts : List String}
      (h : Applied (Text.trim raw.toList) kind word body) (hs : 'ſ' ∉ word)
      (ha : analyzer field (String.ofList (Text.trim body)) = .ok ts) (hts : 2 ≤ ts.length) :
      Decided (.error (.malformedAt .severalTerms (String.ofList (Text.trim body))))
  | empty {kind : Capitalization} {word body : List Char}
      (h : Applied (Text.trim raw.toList) kind word body) (hs : 'ſ' ∉ word)
      (ha : analyzer field (String.ofList (Text.trim body)) = .ok []) :
      Decided (.error (.malformedAt .emptyOperand (String.ofList (Text.trim body))))
  | term {kind : Capitalization} {word body : List Char} {t : String}
      (h : Applied (Text.trim raw.toList) kind word body) (hs : 'ſ' ∉ word)
      (ha : analyzer field (String.ofList (Text.trim body)) = .ok [t]) :
      Decided (.ok (.payload ⟨field, t⟩ [kind.code]))

theorem exists_decided : ∃ o, Decided field analyzer raw o := by
  by_cases hform : ∃ kind word body, Applied (Text.trim raw.toList) kind word body
  · obtain ⟨kind, word, body, h⟩ := hform
    by_cases hs : 'ſ' ∈ word
    · exact ⟨_, .keyword h hs⟩
    · cases ha : analyzer field (String.ofList (Text.trim body)) with
      | error e => exact ⟨_, .analysis h hs ha⟩
      | ok ts =>
        rcases ts with _ | ⟨t, _ | ⟨u, us⟩⟩
        · exact ⟨_, .empty h hs ha⟩
        · exact ⟨_, .term h hs ha⟩
        · exact ⟨_, .several h hs ha (by simp)⟩
  · exact ⟨_, .form fun kind word body h => hform ⟨kind, word, body, h⟩⟩

variable {field analyzer raw}

/-! ## Reading -/

theorem parse_applied {kind : Capitalization} {word body : List Char}
    (h : Applied (Text.trim raw.toList) kind word body) :
    Application.parse raw = .ok ⟨String.ofList word, String.ofList (Text.trim body)⟩ := by
  have hsome := application_eq_some_iff.mpr ⟨kind, body, h, rfl⟩
  simp only [Application.parse, hsome]

theorem parse_not_applied (h : ∀ kind word body, ¬ Applied (Text.trim raw.toList) kind word body) :
    Application.parse raw = .error (.malformedAt .invalidCapitalization (Text.trimmed raw)) := by
  have hnone := application_eq_none_iff.mpr h
  simp only [Application.parse, hnone, Text.trimmed]

/-- What is left to decide behind the written form and the keyword. -/
theorem compile_applied {kind : Capitalization} {word body : List Char}
    (h : Applied (Text.trim raw.toList) kind word body) (hs : 'ſ' ∉ word) :
    compileCapitalization field raw analyzer =
      match analyzer field (String.ofList (Text.trim body)) with
      | .error e => .error (.analysis e)
      | .ok [] => .error (.malformedAt .emptyOperand (String.ofList (Text.trim body)))
      | .ok [t] => .ok (.payload ⟨field, t⟩ [kind.code])
      | .ok _ => .error (.malformedAt .severalTerms (String.ofList (Text.trim body))) := by
  have hkind : Application.kind ⟨String.ofList word, String.ofList (Text.trim body)⟩ = .ok kind := by
    simp only [Application.kind, ofKeyword_of_spells h.spells hs]
  simp only [compileCapitalization, CapitalizationExpression.parse, parse_applied h, hkind, Application.term, bind,
    Except.bind]
  rcases analyzer field (String.ofList (Text.trim body)) with e | (_ | ⟨t, _ | ⟨u, us⟩⟩) <;> rfl

theorem compile_of_decided {o : Outcome Node} (h : Decided field analyzer raw o) :
    compileCapitalization field raw analyzer = o := by
  cases h with
  | form h =>
    simp only [compileCapitalization, CapitalizationExpression.parse, parse_not_applied h, bind, Except.bind]
  | keyword h hs =>
    simp only [compileCapitalization, CapitalizationExpression.parse, parse_applied h, Application.kind,
      ofKeyword_of_longS hs, bind, Except.bind]
  | analysis h hs ha => simp only [compile_applied h hs, ha]
  | several h hs ha hts =>
    rename_i ts
    rw [compile_applied h hs, ha]
    rcases ts with _ | ⟨t, _ | ⟨u, us⟩⟩
    · cases hts
    · exact absurd hts (Nat.lt_irrefl 1)
    · rfl
  | empty h hs ha => simp only [compile_applied h hs, ha]
  | term h hs ha => simp only [compile_applied h hs, ha]

theorem compileCapitalization_eq_iff (o : Outcome Node) :
    compileCapitalization field raw analyzer = o ↔ Decided field analyzer raw o := by
  constructor
  · rintro rfl
    obtain ⟨o, ho⟩ := exists_decided field analyzer raw
    rwa [compile_of_decided ho]
  · exact compile_of_decided

/-! ## Fragments -/

theorem Applied.word_infix {text : List Char} {kind : Capitalization} {word body : List Char}
    (h : Applied text kind word body) : word <:+: text := by
  rw [h.append, List.append_assoc]
  exact (List.prefix_append _ _).isInfix

theorem Applied.argument_infix {text : List Char} {kind : Capitalization} {word body : List Char}
    (h : Applied text kind word body) : Text.trim body <:+: text := by
  have hbody : body <:+: text := ⟨word ++ ['('], [')'], by rw [h.append]; simp⟩
  exact (Text.trim_isInfix body).trans hbody

/-- A part that is named as malformed stands in the input. -/
theorem Decided.fragment {mistake : Mistake} {fragment : Option String}
    (h : Decided field analyzer raw (.error (.malformed mistake fragment))) :
    ∃ s, fragment = some s ∧ s.toList <:+: raw.toList := by
  have hraw := Text.trim_isInfix raw.toList
  cases h with
  | form _ => exact ⟨_, rfl, by rwa [Text.trimmed, String.toList_ofList]⟩
  | keyword h _ => exact ⟨_, rfl, by rw [String.toList_ofList]; exact h.word_infix.trans hraw⟩
  | several h _ _ _ => exact ⟨_, rfl, by rw [String.toList_ofList]; exact h.argument_infix.trans hraw⟩
  | empty h _ _ => exact ⟨_, rfl, by rw [String.toList_ofList]; exact h.argument_infix.trans hraw⟩

end

theorem message_invalidCapitalization :
    Mistake.invalidCapitalization.message = "invalid syntax" ++ ("; " ++ capitalizationUsage) := by
  rw [← String.append_assoc]
  rfl

/-- One relation says what becomes of every expression, and its parts are determined by the text. Whatever part
of the input is named as malformed stands in the input. -/
theorem capitalization_outcome (field raw : String) (analyzer : Analyzer) :
    (∀ kind word body kind' word' body', Applied (Text.trim raw.toList) kind word body →
      Applied (Text.trim raw.toList) kind' word' body' → kind = kind' ∧ word = word' ∧ body = body') ∧
    (∀ o, compileCapitalization field raw analyzer = o ↔ Decided field analyzer raw o) ∧
    (∀ mistake fragment, compileCapitalization field raw analyzer = .error (.malformed mistake fragment) →
      ∃ s, fragment = some s ∧ s.toList <:+: raw.toList) ∧
    (∃ usage, Mistake.invalidCapitalization.message = "invalid syntax" ++ usage) ∧
    Mistake.noPayload.message = "no payload is associated with the operator" ∧
    Mistake.severalTerms.message = "expected a single term" ∧
    Mistake.emptyOperand.message = "empty operand" := by
  refine ⟨fun _ _ _ _ _ _ h h' => h.unique h', compileCapitalization_eq_iff, ?_, ⟨_, message_invalidCapitalization⟩,
    rfl, rfl, rfl⟩
  intro mistake fragment h
  exact ((compileCapitalization_eq_iff _).mp h).fragment

/-- All parentheses but the first and the last one belong to the argument, and a keyword with U+017F has the
written form but names no class. -/
theorem capitalization_outcome_parentheses :
    Applied (Text.trim " CAP( f(x)) ) ".toList) .cap "CAP".toList " f(x)) ".toList ∧
    compileCapitalization "t" " CAP( f(x)) ) " Analysis.whitespace = .ok (.payload ⟨"t", "f(x))"⟩ [67]) ∧
    (∀ kind word body, Applied (Text.trim " CAP( f(x)) ) ".toList) kind word body → body = " f(x)) ".toList) ∧
    compileCapitalization "t" "firſtcap(x)" Analysis.whitespace =
      .error (.malformedAt .noPayload "firſtcap") ∧
    "firſtcap".toList <:+: "firſtcap(x)".toList := by
  have happlied : Applied (Text.trim " CAP( f(x)) ) ".toList) .cap "CAP".toList " f(x)) ".toList :=
    ⟨by decide, by decide, .cons (by decide) (.cons (by decide) (.cons (by decide) .nil)), by decide⟩
  obtain ⟨hunique, hparentheses, -⟩ := capitalization_outcome "t" " CAP( f(x)) ) " Analysis.whitespace
  have hterm := (hparentheses _).mpr (.term (t := "f(x))") happlied (by decide) rfl)
  have hlong : compileCapitalization "t" "firſtcap(x)" Analysis.whitespace =
      .error (.malformedAt .noPayload "firſtcap") := rfl
  obtain ⟨s, hs, hinfix⟩ := (capitalization_outcome "t" "firſtcap(x)" Analysis.whitespace).2.2.1 _ _ hlong
  obtain rfl := Option.some.inj hs
  exact ⟨happlied, hterm, fun kind word body h => (hunique _ _ _ _ _ _ h happlied).2.2, hlong, hinfix⟩

end Proximity
