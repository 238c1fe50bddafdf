import Proximity.Capitalization.Document
import Proximity.Request.Document

/-! Names in documents. A name is a string, or the only key of an object with nothing to say of it. The names of modes
and classes in documents are names that the command line and expressions know as well. -/
namespace Proximity
set_option autoImplicit false

namespace Json
variable {α : Type} {names : List (String × α)} {v : Value} {a : α}

/-- The two written forms of a name. -/
inductive Value.Writes (name : String) : Value → Prop
  | string : Writes name (.string name)
  | key : Writes name (.object [(name, .null)])

theorem variantNamed_eq_ok_iff (s : String) : variantNamed names s = .ok a ↔ names.lookup s = some a := by
  unfold variantNamed
  cases names.lookup s <;> simp

theorem variantNamed_bind_eq_ok_iff {β : Type} {f : α → Except Fault β} {b : β} (s : String) :
    (variantNamed names s >>= f) = .ok b ↔ ∃ a, names.lookup s = some a ∧ f a = .ok b := by
  unfold variantNamed
  cases names.lookup s <;> simp [bind, Except.bind]

theorem nameOutermost_eq_ok_iff :
    nameOutermost names v = .ok a ↔ ∃ name, names.lookup name = some a ∧ v.Writes name := by
  constructor
  · intro h
    match v, h with
    | .string s, h => exact ⟨s, (variantNamed_eq_ok_iff s).mp h, .string⟩
    | .object ((key, w) :: more), h =>
      obtain ⟨b, hname, hw⟩ := (variantNamed_bind_eq_ok_iff key).mp h
      match w, more, hw with
      | .null, [], hw => exact ⟨key, Except.ok.inj hw ▸ hname, .key⟩
  · rintro ⟨name, hname, hv⟩
    cases hv with
    | string => exact (variantNamed_eq_ok_iff name).mpr hname
    | key => exact (variantNamed_bind_eq_ok_iff name).mpr ⟨a, hname, rfl⟩

/-- Inside a tagged record an empty object is as good as null, and nothing else is read. -/
theorem nameInside_eq_ok_iff : nameInside names v = .ok a ↔
    ∃ name, names.lookup name = some a ∧ (v.Writes name ∨ v = .object [(name, .object [])]) := by
  constructor
  · intro h
    match v, h with
    | .string s, h => exact ⟨s, (variantNamed_eq_ok_iff s).mp h, .inl .string⟩
    | .object [(key, w)], h =>
      obtain ⟨b, hname, hw⟩ := (variantNamed_bind_eq_ok_iff key).mp h
      match w, hw with
      | .null, hw => exact ⟨key, Except.ok.inj hw ▸ hname, .inl .key⟩
      | .object [], hw => exact ⟨key, Except.ok.inj hw ▸ hname, .inr rfl⟩
  · rintro ⟨name, hname, hv | rfl⟩
    · cases hv with
      | string => exact (variantNamed_eq_ok_iff name).mpr hname
      | key => exact (variantNamed_bind_eq_ok_iff name).mpr ⟨a, hname, rfl⟩
    · exact (variantNamed_bind_eq_ok_iff name).mpr ⟨a, hname, rfl⟩

end Json

/-! ## Modes -/

namespace Mode
variable {v : Json.Value} {mode : Mode}

theorem parse_eq_ok_iff (text : String) : parse text = .ok mode ↔ names.lookup (Text.lowercased text) = some mode := by
  unfold parse
  cases names.lookup (Text.lowercased text) <;> simp

/-- A mode that a document names may be named so on the command line. -/
theorem exists_parse_of_ofJson (h : ofJson v = .ok mode) : ∃ name, v.Writes name ∧ parse name = .ok mode := by
  obtain ⟨name, hname, hv⟩ := Json.nameOutermost_eq_ok_iff.mp h
  refine ⟨name, hv, (parse_eq_ok_iff name).mpr ?_⟩
  have hmem : name ∈ names.map Prod.fst := by
    obtain ⟨before, after, hnames, -⟩ := List.lookup_eq_some_iff.mp hname
    rw [hnames]
    simp
  have hsmall : ∀ name ∈ names.map Prod.fst, Text.lowercased name = name := by decide
  rw [hsmall name hmem, hname]

end Mode

/-! ## Classes -/

namespace Capitalization
variable {v : Json.Value} {c : Capitalization}

theorem lookup_names_iff (word : String) : names.lookup word = some c ↔ word = c.keyword := by
  constructor
  · intro h
    obtain ⟨before, after, hnames, -⟩ := List.lookup_eq_some_iff.mp h
    have hmem : (word, c) ∈ names := by
      rw [hnames]
      simp
    simp only [names, List.mem_cons, List.not_mem_nil, or_false, Prod.mk.injEq] at hmem
    rcases hmem with ⟨rfl, rfl⟩ | ⟨rfl, rfl⟩ | ⟨rfl, rfl⟩ <;> rfl
  · rintro rfl
    cases c <;> rfl

/-- A document names a class by its keyword. -/
theorem ofJson_eq_ok_iff : ofJson v = .ok c ↔ v.Writes c.keyword := by
  rw [ofJson, Json.nameOutermost_eq_ok_iff]
  constructor
  · rintro ⟨word, hword, hv⟩
    rwa [← (lookup_names_iff word).mp hword]
  · exact fun hv => ⟨c.keyword, (lookup_names_iff _).mpr rfl, hv⟩

/-- A class that a document names has that name in expressions. -/
theorem exists_ofKeyword_of_ofJson (h : ofJson v = .ok c) : ∃ word, v.Writes word ∧ ofKeyword? word = some c :=
  ⟨c.keyword, ofJson_eq_ok_iff.mp h, by cases c <;> rfl⟩

end Capitalization

end Proximity
