import Proximity.Proofs.Expression.Minimum
import Proximity.Proofs.Text.Trim
import Proximity.Request.Basic

/-! What becomes of a request. Its analyzer is looked up first, then its field is checked, then its percentage is read,
and only then its expression. The percentage reaches nothing but the minimum of a loose tree.

* `Request.Decided`: the outcome of a request by the first check that fails.
* `SameButMinimum`: outcomes that differ in the minimum of a choice at most.
* `request_outcome`: the checks of all requests, and what another percentage makes of a request. -/
namespace Proximity
set_option autoImplicit false

/-! ## The checks of a request -/

/-- The analyzer that is meant by a name, and where no name is given. -/
inductive Analysis.Means : Option String → Analyzer → Prop
  | unnamed : Means none standard
  | standard : Means (some "standard") standard
  | whitespace : Means (some "whitespace") whitespace

theorem named_of_means {name : Option String} {a : Analyzer} (h : Analysis.Means name a) :
    Analysis.named? (name.getD Analysis.defaultName) = some a := by
  cases h <;> rfl

theorem named_of_ne {name : String} (hs : name ≠ "standard") (hw : name ≠ "whitespace") :
    Analysis.named? name = none := by
  rw [Analysis.named?, if_neg hs, if_neg hw]

theorem means_or_unknown (name : Option String) :
    (∃ a, Analysis.Means name a) ∨ ∃ n, name = some n ∧ n ≠ "standard" ∧ n ≠ "whitespace" := by
  cases name with
  | none => exact .inl ⟨_, .unnamed⟩
  | some n =>
    by_cases hs : n = "standard"
    · subst hs
      exact .inl ⟨_, .standard⟩
    · by_cases hw : n = "whitespace"
      · subst hw
        exact .inl ⟨_, .whitespace⟩
      · exact .inr ⟨n, rfl, hs, hw⟩

theorem requireField_of_allBlank {field : String} (h : Text.AllBlank field.toList) :
    requireField field = .error (.request .missingField) := by
  have hnil : Text.trim field.toList = [] := by
    simpa using Text.trim_append_right (t := []) ⟨nofun, nofun⟩ h
  rw [requireField, hnil]
  rfl

theorem requireField_of_not_allBlank {field : String} (h : ¬ Text.AllBlank field.toList) :
    requireField field = .ok () := by
  have hne := Text.trim_ne_nil h
  rw [requireField, List.isEmpty_eq_false_iff.mpr hne]
  rfl

/-- A percentage is refused with the text that was given for it. -/
theorem parsePercent_error {minimum : Option String} {e : Refusal} (h : parsePercent minimum = .error e) :
    ∃ raw, minimum = some raw ∧
      (e = .malformedAt .invalidMinimum raw ∨ e = .malformedAt .minimumOutOfRange raw) := by
  cases minimum with
  | none => cases h
  | some raw =>
    refine ⟨raw, rfl, ?_⟩
    simp only [parsePercent] at h
    split at h
    · exact .inl (Except.error.inj h).symm
    · split at h
      · exact .inr (Except.error.inj h).symm
      · cases h

namespace Request

/-- The name that a request gives for its analyzer. -/
def analyzer? : Request → Option String
  | proximity _ _ analyzer => analyzer
  | capitalization _ _ analyzer => analyzer

def expression : Request → String
  | proximity q _ _ => q
  | capitalization q _ _ => q

/-- The percentage that a request gives, as it is written. -/
def minimum? : Request → Option String
  | proximity _ params _ => params.minimum
  | capitalization .. => none

def field : Request → String
  | proximity _ params _ => params.field
  | capitalization _ params _ => params.field

/-- The outcome of a request: the refusal of its first check that fails, or what its expression compiles to. -/
inductive Decided : Request → Outcome Node → Prop
  | analyzer {r : Request} {name : String} (h : r.analyzer? = some name) (hs : name ≠ "standard")
      (hw : name ≠ "whitespace") : Decided r (.error (.request (.unknownAnalyzer name)))
  | field {r : Request} {a : Analyzer} (ha : Analysis.Means r.analyzer? a) (hf : Text.AllBlank r.field.toList) :
      Decided r (.error (.request .missingField))
  | minimum {q : String} {params : ProximityParams} {name : Option String} {a : Analyzer} {e : Refusal}
      (ha : Analysis.Means name a) (hf : ¬ Text.AllBlank params.field.toList)
      (h : parsePercent params.minimum = .error e) : Decided (.proximity q params name) (.error e)
  | proximity {q : String} {params : ProximityParams} {name : Option String} {a : Analyzer} {percent : UInt32}
      (ha : Analysis.Means name a) (hf : ¬ Text.AllBlank params.field.toList)
      (h : parsePercent params.minimum = .ok percent) :
      Decided (.proximity q params name) (compileProximity params.field q a params.mode percent)
  | capitalization {q : String} {params : CapitalizationParams} {name : Option String} {a : Analyzer}
      (ha : Analysis.Means name a) (hf : ¬ Text.AllBlank params.field.toList) :
      Decided (.capitalization q params name) (compileCapitalization params.field q a)

theorem exists_decided (r : Request) : ∃ o, r.Decided o := by
  rcases means_or_unknown r.analyzer? with ⟨a, ha⟩ | ⟨name, h, hs, hw⟩
  · by_cases hf : Text.AllBlank r.field.toList
    · exact ⟨_, .field ha hf⟩
    · cases r with
      | proximity q params name =>
        cases h : parsePercent params.minimum with
        | error e => exact ⟨_, .minimum ha hf h⟩
        | ok percent => exact ⟨_, .proximity ha hf h⟩
      | capitalization q params name => exact ⟨_, .capitalization ha hf⟩
  · exact ⟨_, .analyzer h hs hw⟩

section
variable {q : String} {name : Option String} {a : Analyzer} (ha : Analysis.Means name a)
include ha

theorem compile_proximity (params : ProximityParams) : (proximity q params name).compile = params.compile q a := by
  simp only [compile, analyzerName, named_of_means ha, compileWith]

theorem compile_capitalization (params : CapitalizationParams) :
    (capitalization q params name).compile = params.compile q a := by
  simp only [compile, analyzerName, named_of_means ha, compileWith]

end

theorem compile_of_unknown {r : Request} {name : String} (h : r.analyzer? = some name) (hs : name ≠ "standard")
    (hw : name ≠ "whitespace") : r.compile = .error (.request (.unknownAnalyzer name)) := by
  have hname : r.analyzerName = name := by
    cases r <;> exact congrArg (·.getD Analysis.defaultName) h
  rw [compile, hname, named_of_ne hs hw]

theorem compile_of_allBlank {r : Request} {a : Analyzer} (ha : Analysis.Means r.analyzer? a)
    (hf : Text.AllBlank r.field.toList) : r.compile = .error (.request .missingField) := by
  have hfield := requireField_of_allBlank hf
  cases r with
  | proximity q params name =>
    refine (compile_proximity ha params).trans ?_
    exact congrArg (· >>= _) hfield
  | capitalization q params name =>
    refine (compile_capitalization ha params).trans ?_
    exact congrArg (· >>= _) hfield

theorem compile_of_decided {r : Request} {o : Outcome Node} (h : r.Decided o) : r.compile = o := by
  cases h with
  | analyzer h hs hw => exact compile_of_unknown h hs hw
  | field ha hf => exact compile_of_allBlank ha hf
  | minimum ha hf h =>
    rw [compile_proximity ha, ProximityParams.compile, requireField_of_not_allBlank hf, ProximityParams.percent, h]
    rfl
  | proximity ha hf h =>
    rw [compile_proximity ha, ProximityParams.compile, requireField_of_not_allBlank hf, ProximityParams.percent, h]
    rfl
  | capitalization ha hf =>
    rw [compile_capitalization ha, CapitalizationParams.compile, requireField_of_not_allBlank hf]
    rfl

theorem compile_eq_iff (r : Request) (o : Outcome Node) : r.compile = o ↔ r.Decided o := by
  constructor
  · rintro rfl
    obtain ⟨o, ho⟩ := r.exists_decided
    rwa [compile_of_decided ho]
  · exact compile_of_decided

end Request

/-! ## Another percentage -/

/-- Outcomes that differ in the minimum of a choice at most, which does not fall. Trees of spans have none. -/
inductive SameButMinimum : Mode → Outcome Node → Outcome Node → Prop
  | refused (mode : Mode) (e : Refusal) : SameButMinimum mode (.error e) (.error e)
  | span (s : Span) : SameButMinimum .phraseAware (.ok (.span s)) (.ok (.span s))
  | choice {clauses : List Clause} {minimum minimum' : UInt32}
      (h : clauses.length ≤ 9 * 10 ^ 16 → minimum ≤ minimum') :
      SameButMinimum .looseTerms (.ok (.choice clauses minimum)) (.ok (.choice clauses minimum'))

section
variable {percent percent' : UInt32} (h : percent ≤ percent')
include h

theorem compile_sameButMinimum (field : String) (e : Expression) (mode : Mode) :
    SameButMinimum mode (e.compile field mode percent) (e.compile field mode percent') := by
  cases mode with
  | phraseAware => exact .span _
  | looseTerms =>
    simp only [Expression.compile]
    cases e.clauses? field with
    | none => exact .refused _ _
    | some clauses => exact .choice fun hlen => minimumShouldMatch_mono (Nat.le_refl _) hlen h

theorem compileProximity_sameButMinimum (field raw : String) (analyzer : Analyzer) (mode : Mode) :
    SameButMinimum mode (compileProximity field raw analyzer mode percent)
      (compileProximity field raw analyzer mode percent') := by
  simp only [compileProximity, bind, Except.bind]
  cases Expression.parse field raw analyzer mode.recognizesPhrases with
  | error e => exact .refused _ _
  | ok e => exact compile_sameButMinimum h field e mode

theorem request_sameButMinimum (q field : String) (mode : Mode) (name : Option String)
    {minimum minimum' : Option String} (hp : parsePercent minimum = .ok percent)
    (hp' : parsePercent minimum' = .ok percent') :
    SameButMinimum mode (Request.proximity q ⟨field, minimum, mode⟩ name).compile
      (Request.proximity q ⟨field, minimum', mode⟩ name).compile := by
  rcases means_or_unknown name with ⟨a, ha⟩ | ⟨n, hn, hs, hw⟩
  · by_cases hf : Text.AllBlank field.toList
    · have hfield : ∀ minimum, (Request.proximity q ⟨field, minimum, mode⟩ name).compile =
          .error (.request .missingField) := fun _ => Request.compile_of_decided (.field ha hf)
      rw [hfield, hfield]
      exact .refused _ _
    · rw [Request.compile_of_decided (.proximity ha hf hp), Request.compile_of_decided (.proximity ha hf hp')]
      exact compileProximity_sameButMinimum h field q a mode
  · have hunknown : ∀ minimum, (Request.proximity q ⟨field, minimum, mode⟩ name).compile =
        .error (.request (.unknownAnalyzer n)) := fun _ => Request.compile_of_decided (.analyzer hn hs hw)
    rw [hunknown, hunknown]
    exact .refused _ _

end

/-- One relation says what becomes of every request, by checks in a fixed order. Of two requests with readable
percentages and nothing else to tell them apart, both are refused alike or both compile, to the same tree but for the
minimum, which is not smaller for the greater percentage. -/
theorem request_outcome :
    (∀ (r : Request) o, r.compile = o ↔ r.Decided o) ∧
    (∀ minimum e, parsePercent minimum = .error e → ∃ raw, minimum = some raw ∧
      (e = .malformedAt .invalidMinimum raw ∨ e = .malformedAt .minimumOutOfRange raw)) ∧
    (∀ q field mode name minimum minimum' percent percent', parsePercent minimum = .ok percent →
      parsePercent minimum' = .ok percent' → percent ≤ percent' →
        SameButMinimum mode (Request.proximity q ⟨field, minimum, mode⟩ name).compile
          (Request.proximity q ⟨field, minimum', mode⟩ name).compile) ∧
    (∀ name, (RequestFault.unknownAnalyzer name).message = "unknown analyzer \"" ++ name ++ "\"") ∧
    RequestFault.missingField.message = "missing query field (qf)" :=
  ⟨Request.compile_eq_iff, fun _ _ => parsePercent_error,
    fun q field mode name _ _ _ _ hp hp' h => request_sameButMinimum h q field mode name hp hp', fun _ => rfl, rfl⟩

/-- A percentage that is out of range comes before an expression without an operator, and half of three clauses are
fewer than all of them. -/
theorem request_outcome_percent :
    (Request.proximity "fox" ⟨"t", some "101", .phraseAware⟩ none).compile =
      .error (.malformedAt .minimumOutOfRange "101") ∧
    parsePercent (some " 50% ") = .ok 50 ∧ parsePercent none = .ok 100 ∧ (50 : UInt32) ≤ 100 ∧
    ∃ clauses minimum minimum',
      (Request.proximity "a b w2 c d" ⟨"t", some " 50% ", .looseTerms⟩ (some "whitespace")).compile =
        .ok (.choice clauses minimum) ∧
      (Request.proximity "a b w2 c d" ⟨"t", none, .looseTerms⟩ (some "whitespace")).compile =
        .ok (.choice clauses minimum') ∧
      minimum = 2 ∧ minimum' = 3 ∧
      SameButMinimum .looseTerms (.ok (.choice clauses minimum)) (.ok (.choice clauses minimum')) := by
  obtain ⟨hdecided, -, hsame, -⟩ := request_outcome
  have hblank : ¬ Text.AllBlank "t".toList := fun h => absurd (h 't' (by decide)) (by decide)
  have hrange : parsePercent (some "101") = .error (.malformedAt .minimumOutOfRange "101") := by decide
  have hhalf : parsePercent (some " 50% ") = .ok 50 := by decide
  have hall : parsePercent none = .ok 100 := rfl
  have hle : (50 : UInt32) ≤ 100 := by decide
  have h := hsame "a b w2 c d" "t" .looseTerms (some "whitespace") _ _ _ _ hhalf hall hle
  refine ⟨(hdecided _ _).mpr (.minimum .unnamed hblank hrange), hhalf, hall, hle, _, _, _, rfl, rfl, rfl, rfl, h⟩

end Proximity
