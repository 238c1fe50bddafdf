import Mathlib
import Proximity.Expression.Compile

/-! The field of a span and the fields of its terms. The field is looked up along the first clauses, so a span without
clauses that stands first hides the field of the terms behind it.

* `Span.OpensEmpty`: the spans whose first clauses lead to a span without clauses.
* `field_of_terms`: the field of the terms is found in all other spans, and in these no field is. -/
namespace Proximity
set_option autoImplicit false

namespace Span

mutual

/-- A span whose first clause, the first clause of that and so on lead to a span without clauses. -/
inductive OpensEmpty : Span → Prop
  | near {clauses : List Span} {slop : UInt32} {inOrder : Bool} (h : FirstOpensEmpty clauses) :
      OpensEmpty (.near clauses slop inOrder)
  | anyOf {clauses : List Span} (h : FirstOpensEmpty clauses) : OpensEmpty (.anyOf clauses)

/-- No spans, or some of which the first leads to a span without clauses. -/
inductive FirstOpensEmpty : List Span → Prop
  | nil : FirstOpensEmpty []
  | cons {s : Span} {rest : List Span} (h : s.OpensEmpty) : FirstOpensEmpty (s :: rest)

end

mutual

theorem field_eq_none_iff : ∀ s : Span, s.field? = none ↔ s.OpensEmpty
  | term t => iff_of_false nofun nofun
  | near clauses slop inOrder => by
    rw [field?, firstField_eq_none_iff clauses]
    exact ⟨.near, fun | .near h => h⟩
  | anyOf clauses => by
    rw [field?, firstField_eq_none_iff clauses]
    exact ⟨.anyOf, fun | .anyOf h => h⟩

theorem firstField_eq_none_iff : ∀ clauses : List Span, firstField? clauses = none ↔ FirstOpensEmpty clauses
  | [] => iff_of_true rfl .nil
  | s :: rest => by
    rw [firstField?, field_eq_none_iff s]
    exact ⟨.cons, fun | .cons h => h⟩

end

mutual

/-- A field that is found is that of the first term. -/
theorem exists_of_field {f : String} : ∀ {s : Span}, s.field? = some f → ∃ t rest, s.terms = t :: rest ∧ t.field = f
  | term t, h => ⟨t, [], rfl, Option.some.inj h⟩
  | near _ _ _, h => exists_of_firstField h
  | anyOf _, h => exists_of_firstField h

theorem exists_of_firstField {f : String} :
    ∀ {clauses : List Span}, firstField? clauses = some f → ∃ t rest, termsOf clauses = t :: rest ∧ t.field = f
  | [], h => nomatch h
  | s :: rest, h => by
    obtain ⟨t, ts, hterms, hf⟩ := exists_of_field (s := s) h
    exact ⟨t, ts ++ termsOf rest, by rw [termsOf, hterms, List.cons_append], hf⟩

end

theorem field_eq_none_of_terms {s : Span} (h : s.terms = []) : s.field? = none := by
  cases hfield : s.field? with
  | none => rfl
  | some f =>
    obtain ⟨t, rest, hterms, -⟩ := exists_of_field hfield
    cases h.symm.trans hterms

theorem field_eq_some_iff {s : Span} {f : String} (h : ∀ t ∈ s.terms, t.field = f) :
    s.field? = some f ↔ ¬ s.OpensEmpty := by
  rw [← field_eq_none_iff]
  constructor
  · intro hsome hnone
    cases hsome.symm.trans hnone
  · intro hne
    obtain ⟨g, hg⟩ := Option.ne_none_iff_exists'.mp hne
    obtain ⟨t, rest, hterms, rfl⟩ := exists_of_field hg
    rw [hg, h t (hterms ▸ List.mem_cons_self ..)]

end Span

/-- A span without terms has no field. Where all terms have one field, that field is found exactly if the first clauses
do not lead to a span without clauses, and otherwise no field is. -/
theorem field_of_terms (s : Span) :
    (s.terms = [] → s.field? = none) ∧ (s.field? = none ↔ s.OpensEmpty) ∧
      ∀ f, (∀ t ∈ s.terms, t.field = f) → (s.field? = some f ↔ ¬ s.OpensEmpty) :=
  ⟨Span.field_eq_none_of_terms, Span.field_eq_none_iff s, fun _ h => Span.field_eq_some_iff h⟩

/-- A span without clauses behind a phrase does no harm, and phrases without terms have no field. -/
theorem field_of_terms_phrases :
    let s : Span := .near [.near [.term ⟨"t", "lazy"⟩, .term ⟨"t", "dog"⟩] 0 true, .anyOf []] 3 false
    let bare : Span := .near [.phrase "t" [], .phrase "t" []] 3 false
    ((∀ t ∈ s.terms, t.field = "t") ∧ ¬ s.OpensEmpty ∧ s.field? = some "t") ∧
      bare.terms = [] ∧ bare.field? = none := by
  intro s bare
  have hterms : ∀ t ∈ s.terms, t.field = "t" := by decide
  have hopen : ¬ s.OpensEmpty := mt (Span.field_eq_none_iff s).mpr (by decide)
  have hfield := ((field_of_terms s).2.2 "t" hterms).mpr hopen
  have hempty : bare.terms = [] := rfl
  exact ⟨⟨hterms, hopen, hfield⟩, hempty, (field_of_terms bare).1 hempty⟩

/-- A pairing of a phrase without terms, as compiling makes it, with a term: the term has a field and the pairing has
none. -/
theorem field_of_terms_hidden :
    (∀ percent, Expression.compile "t" ⟨.phrase [], ⟨.ordered, 5⟩, .termSet ["dog"]⟩ .phraseAware percent =
      .ok (.span (.near [.phrase "t" [], .ofTerm "t" "dog"] 5 true))) ∧
    (Span.near [.phrase "t" [], .ofTerm "t" "dog"] 5 true).terms = [⟨"t", "dog"⟩] ∧
    ¬ ∀ (s : Span) (f : String), s.terms ≠ [] → (∀ t ∈ s.terms, t.field = f) → s.field? = some f := by
  refine ⟨fun percent => rfl, rfl, fun h => ?_⟩
  have hfield := h (.near [.phrase "t" [], .ofTerm "t" "dog"] 5 true) "t" nofun (by decide)
  exact absurd hfield (by decide)

end Proximity
