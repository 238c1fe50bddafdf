import Proximity.Proofs.Capitalization.Outcome
import Proximity.Proofs.Expression.Outcome
import Proximity.Proofs.Request.Outcome
import Proximity.Request.Document

/-! What a refusal says of the input that is refused. A malformed input is blamed on a part of it, a failed analysis on
the text that the analyzer complains of, and a fault of the request around the expression on no text at all.

* `Refusal.fragment_in_message`: the part that is blamed is shown.
* `Refusal.Blames`: the parts of an expression that its refusal can blame; compiling blames no others.
* `Request.refused`: a request is faulty itself, or its expression or its percentage is malformed. -/
namespace Proximity
set_option autoImplicit false

namespace Refusal

/-! ## Kinds of refusals -/

section
variable (mistake : Mistake) (fragment : String) (error : AnalysisError) (fault : RequestFault)

@[simp] theorem fragment?_malformedAt : (malformedAt mistake fragment).fragment? = some fragment := rfl

@[simp] theorem isMalformed_malformedAt : (malformedAt mistake fragment).isMalformed = true := rfl

@[simp] theorem fragment?_analysis : (analysis error).fragment? = some error.text := rfl

@[simp] theorem isMalformed_analysis : (analysis error).isMalformed = false := rfl

@[simp] theorem fragment?_request : (request fault).fragment? = none := rfl

@[simp] theorem isMalformed_request : (request fault).isMalformed = false := rfl

end

/-- Only a fault of the request is neither malformed nor blamed on a text. -/
theorem exists_request_iff (e : Refusal) :
    (∃ fault, e = .request fault) ↔ e.isMalformed = false ∧ e.fragment? = none := by
  cases e with
  | malformed => simp [isMalformed]
  | analysis => simp
  | request => simp

theorem quoted_isInfix (a b text : String) :
    ("\"" ++ text ++ "\"").toList <:+: (a ++ "\"" ++ text ++ ("\"" ++ b)).toList :=
  ⟨a.toList, b.toList, by simp only [String.toList_append, List.append_assoc]⟩

-- on variables: `simp` would compare the literals of a wording letter by letter
theorem message_isInfix (opening complaint field colon reason : String) :
    complaint.toList <:+: (opening ++ (complaint ++ field ++ colon ++ reason)).toList :=
  ⟨opening.toList, (field ++ colon ++ reason).toList, by simp only [String.toList_append, List.append_assoc]⟩

/-- The part of the input that is at fault is shown in quotes. -/
theorem fragment_in_message {e : Refusal} {s : String} (h : e.fragment? = some s) :
    ("\"" ++ s ++ "\"").toList <:+: e.message.toList := by
  cases e with
  | malformed mistake fragment =>
    obtain rfl : fragment = some s := h
    have hopen : mistake.message ++ ": \"" = mistake.message ++ ": " ++ "\"" := by
      rw [String.append_assoc]
      rfl
    have hquoted := quoted_isInfix (mistake.message ++ ": ") "" s
    rwa [← hopen] at hquoted
  | analysis error =>
    obtain rfl : error.text = s := Option.some.inj h
    have hquoted : ("\"" ++ error.text ++ "\"").toList <:+:
        ("cannot analyze \"" ++ error.text ++ "\" for field ").toList :=
      quoted_isInfix "cannot analyze " " for field " error.text
    exact hquoted.trans (message_isInfix "analysis failed: " _ error.field ": " error.reason)
  | request => cases h

/-! ## Expressions -/

/-- What a refusal of an expression blames: a part of the expression, or the text that an analyzer names when it fails
on a part of the expression. -/
inductive Blames (field raw : String) (analyzer : Analyzer) : Refusal → Prop
  | malformed (mistake : Mistake) {part : List Char} (h : part <:+: raw.toList) :
      Blames field raw analyzer (.malformedAt mistake (String.ofList part))
  | analysis {part : List Char} {error : AnalysisError} (h : part <:+: raw.toList)
      (ha : analyzer field (String.ofList part) = .error error) : Blames field raw analyzer (.analysis error)

end Refusal

section
variable {field raw : String} {analyzer : Analyzer} {mode : Mode} {e : Refusal}

theorem SideRefused.blames {side : List Char} (h : SideRefused field analyzer mode side e)
    (hside : side <:+: raw.toList) : e.Blames field raw analyzer := by
  cases h with
  | analysis h => exact .analysis ((handedText_isInfix mode side).trans hside) h
  | empty h => exact .malformed _ hside

theorem FirstFailure.blames (h : FirstFailure field analyzer mode raw e) : e.Blames field raw analyzer := by
  have hraw := Text.trim_isInfix raw.toList
  cases h with
  | operator h => exact .malformed _ hraw
  | left cut hl => exact hl.blames (cut.sides_isInfix.1.trans hraw)
  | right cut hl hr => exact hr.blames (cut.sides_isInfix.2.trans hraw)
  | distance cut hl hr hd => exact .malformed _ (cut.operator_isInfix.trans hraw)

theorem compileProximity_blames {percent : UInt32}
    (h : compileProximity field raw analyzer mode percent = .error e) : e.Blames field raw analyzer :=
  (failure_of_error h).blames

theorem Decided.blames (h : Decided field analyzer raw (.error e)) : e.Blames field raw analyzer := by
  have hraw := Text.trim_isInfix raw.toList
  cases h with
  | form h => exact .malformed _ hraw
  | keyword h hs => exact .malformed _ (h.word_infix.trans hraw)
  | analysis h hs ha => exact .analysis (h.argument_infix.trans hraw) ha
  | several h hs ha hts => exact .malformed _ (h.argument_infix.trans hraw)
  | empty h hs ha => exact .malformed _ (h.argument_infix.trans hraw)

theorem compileCapitalization_blames (h : compileCapitalization field raw analyzer = .error e) :
    e.Blames field raw analyzer := ((compileCapitalization_eq_iff _).mp h).blames

namespace Refusal

/-- An analyzer that fails on a text names this text. -/
def NamesText (analyzer : Analyzer) : Prop :=
  ∀ field text error, analyzer field text = .error error → error.text = text

/-- With an analyzer that names what it fails on, all refusals of an expression blame a part of it. -/
theorem Blames.fragment (h : e.Blames field raw analyzer) (hanalyzer : NamesText analyzer) :
    ∃ s, e.fragment? = some s ∧ s.toList <:+: raw.toList := by
  cases h with
  | malformed mistake h => exact ⟨_, fragment?_malformedAt _ _, by rwa [String.toList_ofList]⟩
  | analysis h ha => exact ⟨_, fragment?_analysis _, by rwa [hanalyzer _ _ _ ha, String.toList_ofList]⟩

/-- An analyzer that never fails leaves only malformed expressions to refuse. -/
theorem Blames.malformed_of_total (h : e.Blames field raw analyzer)
    (hanalyzer : ∀ text, ∃ ts, analyzer field text = .ok ts) :
    ∃ mistake s, e = .malformedAt mistake s ∧ s.toList <:+: raw.toList := by
  cases h with
  | malformed mistake h => exact ⟨mistake, _, rfl, by rwa [String.toList_ofList]⟩
  | analysis h ha =>
    obtain ⟨ts, hts⟩ := hanalyzer (String.ofList _)
    rw [hts] at ha
    cases ha

end Refusal

end

/-! ## Requests -/

/-- The named analyzers never fail. -/
theorem Analysis.Means.total {name : Option String} {analyzer : Analyzer} (h : Means name analyzer)
    (field text : String) : ∃ ts, analyzer field text = .ok ts := by
  cases h <;> exact ⟨_, rfl⟩

namespace Request
variable {r : Request} {e : Refusal} (h : r.compile = .error e)
include h

/-- A request is refused for a fault of its own, or for a malformed percentage, or for a malformed part of its
expression. -/
theorem refused : (∃ fault, e = .request fault) ∨
    ∃ mistake s, e = .malformedAt mistake s ∧ (r.minimum? = some s ∨ s.toList <:+: r.expression.toList) := by
  have hdecided := (r.compile_eq_iff _).mp h
  generalize ho : Except.error e = o at hdecided
  cases hdecided with
  | analyzer => exact .inl ⟨_, Except.error.inj ho⟩
  | field => exact .inl ⟨_, Except.error.inj ho⟩
  | minimum ha hf hp =>
    obtain rfl := Except.error.inj ho
    obtain ⟨raw, hraw, he | he⟩ := parsePercent_error hp
    · exact .inr ⟨_, raw, he, .inl hraw⟩
    · exact .inr ⟨_, raw, he, .inl hraw⟩
  | proximity ha hf hp =>
    obtain ⟨mistake, s, he, hs⟩ := (compileProximity_blames ho.symm).malformed_of_total (ha.total _)
    exact .inr ⟨mistake, s, he, .inr hs⟩
  | capitalization ha hf =>
    obtain ⟨mistake, s, he, hs⟩ := (compileCapitalization_blames ho.symm).malformed_of_total (ha.total _)
    exact .inr ⟨mistake, s, he, .inr hs⟩

/-- The refusals of requests that name a text are those of malformed texts. -/
theorem isMalformed_iff : e.isMalformed = true ↔ ∃ s, e.fragment? = some s := by
  rcases refused h with ⟨fault, rfl⟩ | ⟨mistake, s, rfl, -⟩
  · simp
  · simp

/-- What a refusal names was given with the request. -/
theorem fragment_given {s : String} (hs : e.fragment? = some s) :
    r.minimum? = some s ∨ s.toList <:+: r.expression.toList := by
  rcases refused h with ⟨fault, rfl⟩ | ⟨mistake, s', rfl, hgiven⟩
  · cases hs
  · obtain rfl := Option.some.inj hs
    exact hgiven

end Request

/-- A document that cannot be read is a fault of the request. -/
theorem documentOutcome_error {α : Type} {x : Except Json.Fault α} {e : Refusal} (h : documentOutcome x = .error e) :
    e.isMalformed = false ∧ e.fragment? = none := by
  cases x with
  | ok a => cases h
  | error fault =>
    obtain rfl := Except.error.inj h
    exact ⟨rfl, rfl⟩

end Proximity
