import Proximity.Analysis.Standard
import Proximity.Proofs.Expression.Joining
import Proximity.Proofs.Expression.Outcome
import Proximity.Proofs.Query.Pairing

/-! What the two modes have in common. Without a quoted side they read an expression alike and are refused alike,
and the one pairing of the loose tree is among the pairings of the phrase-aware one: the last left term meets
the first right one there too.

* `parse_plain`: reading does not depend on whether phrases are known.
* `shared_pairing`: the pairing that both trees of an expression hold.
* `modes_agree`: the statement above. -/
namespace Proximity
set_option autoImplicit false

/-! ## Reading without quotes -/

theorem classify_plain (field : String) {text : String} (analyzer : Analyzer) (hbare : Text.Bare text.toList)
    (h : ¬ IsQuoted text.toList) :
    Operand.classify field text analyzer true = Operand.classify field text analyzer false := by
  have hnone : unquoted? text.toList = none := by
    rw [unquoted_eq, if_neg h]
  simp only [Operand.classify, analyzedText, phraseText?, Text.trim_of_bare hbare, hnone, if_true,
    Bool.false_eq_true, if_false]

theorem parse_plain (field : String) {raw : String} (analyzer : Analyzer)
    (h : ∀ s, Split.ofExpression raw = .ok s → ¬ IsQuoted s.left.toList ∧ ¬ IsQuoted s.right.toList) :
    Expression.parse field raw analyzer true = Expression.parse field raw analyzer false := by
  cases hs : Split.ofExpression raw with
  | error e => simp only [Expression.parse, bind, Except.bind, hs]
  | ok s =>
    obtain ⟨hl, -, hr, -⟩ := not_operatorAt_side hs
    obtain ⟨hleft, hright⟩ := h s hs
    simp only [Expression.parse, bind, Except.bind, hs, classify_plain field analyzer hl.bare hleft,
      classify_plain field analyzer hr.bare hright]

/-! ## The pairing that both trees hold -/

/-- The span of a clause that asks for one. -/
def Clause.span? : Clause → Option Span
  | .mk (.span s) _ => some s
  | .mk _ _ => none

theorem spans_optionalTerms (field : String) (vs : List String) :
    (optionalTerms field vs).filterMap Clause.span? = [] := by
  rw [List.filterMap_eq_nil_iff]
  intro c hc
  obtain ⟨v, -, rfl⟩ := List.mem_map.mp hc
  rfl

/-- The clauses of a loose tree hold one span, the pairing of the last left term with the first right one. It is
the phrase-aware span itself if both sides have one term, and stands in it at its place otherwise. -/
def SharePairing (ts us : List String) (clauses : List Clause) (span : Span) : Prop :=
  ∃ pair, clauses.filterMap Clause.span? = [pair] ∧
    (ts.length = 1 ∧ us.length = 1 → span = pair) ∧
    (¬ (ts.length = 1 ∧ us.length = 1) →
      ∃ spans, span = .anyOf spans ∧ spans[(ts.length - 1) * us.length]? = some pair)

section
variable (field : String) (o : Operator) {ts us : List String} (hts : ts ≠ []) (hus : us ≠ [])
include hts hus

theorem shared_pairing :
    ∃ clauses pair, Expression.clauses? field ⟨.termSet ts, o, .termSet us⟩ = some clauses ∧
      clauses.filterMap Clause.span? = [pair] ∧
      (o.pairings ((Operand.termSet ts).alternatives field)
        ((Operand.termSet us).alternatives field))[(ts.length - 1) * us.length]? = some pair := by
  have hlast : ts.getLast? = some (ts.getLast hts) := List.getLast?_eq_some_getLast hts
  obtain ⟨first, trailing, rfl⟩ := List.exists_cons_of_ne_nil hus
  refine ⟨optionalTerms field ts.dropLast ++
    .optional (.span (o.pair (Span.ofTerm field (ts.getLast hts)) (Span.ofTerm field first))) ::
      optionalTerms field trailing, o.pair (Span.ofTerm field (ts.getLast hts)) (Span.ofTerm field first),
    ?_, ?_, ?_⟩
  · simp only [Expression.clauses?, Operand.terms, hlast]
  · rw [List.filterMap_append, spans_optionalTerms, List.nil_append]
    exact congrArg (_ :: ·) (spans_optionalTerms field trailing)
  · have hleft : ts[ts.length - 1]? = some (ts.getLast hts) := by
      rw [← List.getLast?_eq_getElem?]
      exact hlast
    have hright : (first :: trailing)[0]? = some first := rfl
    have hx : AlternativeAt field (.termSet ts) (ts.length - 1) (Span.ofTerm field (ts.getLast hts)) := .term hleft
    have hy : AlternativeAt field (.termSet (first :: trailing)) 0 (Span.ofTerm field first) := .term hright
    have hpair := getElem?_pairings o (alternativeAt_iff.mp hx) (alternativeAt_iff.mp hy)
    rw [length_alternatives, Nat.add_zero] at hpair
    exact hpair

theorem compile_termSets (p q : UInt32) :
    ∃ clauses minimum span,
      Expression.compile field ⟨.termSet ts, o, .termSet us⟩ .looseTerms p = .ok (.choice clauses minimum) ∧
      Expression.compile field ⟨.termSet ts, o, .termSet us⟩ .phraseAware q = .ok (.span span) ∧
      SharePairing ts us clauses span := by
  obtain ⟨clauses, pair, hclauses, hspans, hpair⟩ := shared_pairing field o hts hus
  have hloose : Expression.compile field ⟨.termSet ts, o, .termSet us⟩ .looseTerms p =
      .ok (.choice clauses (minimumShouldMatch (.ofNat clauses.length) p)) := by
    simp only [Expression.compile, hclauses]
  refine ⟨clauses, _, _, hloose, rfl, pair, hspans, ?_, ?_⟩
  · rintro ⟨hl, hr⟩
    rw [hl, Nat.sub_self, Nat.zero_mul] at hpair
    exact span_of_fixed (e := ⟨.termSet ts, o, .termSet us⟩) (decide_eq_true hl) (decide_eq_true hr) hpair
  · intro hseveral
    refine ⟨_, span_of_not_fixed fun hfixed => hseveral ?_, hpair⟩
    exact ⟨of_decide_eq_true hfixed.1, of_decide_eq_true hfixed.2⟩

end

/-! ## The two modes -/

/-- Without a quoted side both modes refuse an expression for the same reason, or compile it to trees that
share the pairing of the loose one. -/
theorem modes_agree (field raw : String) (analyzer : Analyzer) (p q : UInt32)
    (hplain : ∀ s, Split.ofExpression raw = .ok s → ¬ IsQuoted s.left.toList ∧ ¬ IsQuoted s.right.toList) :
    (∃ e, compileProximity field raw analyzer .looseTerms p = .error e ∧
      compileProximity field raw analyzer .phraseAware q = .error e) ∨
    ∃ s ts us clauses minimum span, Split.ofExpression raw = .ok s ∧
      analyzer field s.left = .ok ts ∧ analyzer field s.right = .ok us ∧
      compileProximity field raw analyzer .looseTerms p = .ok (.choice clauses minimum) ∧
      compileProximity field raw analyzer .phraseAware q = .ok (.span span) ∧
      SharePairing ts us clauses span := by
  have hparse := parse_plain field analyzer hplain
  rcases checked_or_failure field analyzer .looseTerms raw with ⟨l, op, r, ts, us, h⟩ | ⟨e, h⟩
  · obtain ⟨o, ho, -⟩ := parse_isOperator h.cut.operator h.distance
    have hloose := parse_parts h.cut h.left h.right ho
    rw [operandOf_looseTerms, operandOf_looseTerms, Mode.recognizesPhrases] at hloose
    have hphrase := hparse.trans hloose
    have hleft := h.left.2
    have hright := h.right.2
    rw [handedText_looseTerms] at hleft hright
    obtain ⟨clauses, minimum, span, hl, hp, hshare⟩ := compile_termSets field o h.left.1 h.right.1 p q
    refine .inr ⟨_, ts, us, clauses, minimum, span, ofExpression_of_greedy h.cut, hleft, hright, ?_, ?_, hshare⟩
    · simp only [compileProximity, Mode.recognizesPhrases, hloose, bind, Except.bind, hl]
    · simp only [compileProximity, Mode.recognizesPhrases, hphrase, bind, Except.bind, hp]
  · have hloose := parse_failure h
    rw [Mode.recognizesPhrases] at hloose
    have hphrase := hparse.trans hloose
    refine .inl ⟨e, compileProximity_failure p h, ?_⟩
    simp only [compileProximity, Mode.recognizesPhrases, hphrase, bind, Except.bind]

/-- Two terms on each side, one of them with a quote: the shared pairing is the third of four. -/
theorem modes_agree_crossed :
    (∀ s, Split.ofExpression "quick fox w5 lazy \"dog" = .ok s →
      ¬ IsQuoted s.left.toList ∧ ¬ IsQuoted s.right.toList) ∧
    ∃ clauses minimum span,
      compileProximity "title" "quick fox w5 lazy \"dog" Analysis.whitespace .looseTerms 50 =
        .ok (.choice clauses minimum) ∧
      compileProximity "title" "quick fox w5 lazy \"dog" Analysis.whitespace .phraseAware 0 = .ok (.span span) ∧
      SharePairing ["quick", "fox"] ["lazy", "\"dog"] clauses span := by
  have hs : Split.ofExpression "quick fox w5 lazy \"dog" = .ok ⟨"quick fox", "w5", "lazy \"dog"⟩ := by decide
  have hplain : ∀ s, Split.ofExpression "quick fox w5 lazy \"dog" = .ok s →
      ¬ IsQuoted s.left.toList ∧ ¬ IsQuoted s.right.toList := by
    intro s h
    obtain rfl := Except.ok.inj (hs.symm.trans h)
    exact ⟨by decide, by decide⟩
  refine ⟨hplain, ?_⟩
  rcases modes_agree "title" "quick fox w5 lazy \"dog" Analysis.whitespace 50 0 hplain with
    ⟨e, he, -⟩ | ⟨s, ts, us, clauses, minimum, span, h, hl, hr, hloose, hphrase, hshare⟩
  · cases he
  · obtain rfl := Except.ok.inj (hs.symm.trans h)
    obtain rfl : ["quick", "fox"] = ts := Except.ok.inj hl
    obtain rfl : ["lazy", "\"dog"] = us := Except.ok.inj hr
    exact ⟨clauses, minimum, span, hloose, hphrase, hshare⟩

end Proximity
