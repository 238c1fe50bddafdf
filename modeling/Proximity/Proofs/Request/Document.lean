import Proximity.Proofs.Json.Fields
import Proximity.Proofs.Json.Object
import Proximity.Proofs.Json.Record
import Proximity.Request.Document

/-! Requests and parameters are read from their members alone: the order of the members, members of other names and
left out defaults do not matter, and neither does how the texts of the members are arranged.

* `Request.HeldBy`: the members that make an object a request.
* `HoweverWritten`: what may be done to the text of a document.
* `documents_however_written`: requests and parameters are read back however they are written. -/
namespace Proximity
set_option autoImplicit false
open Json

/-! ## Objects with fields -/

theorem ProximityParams.ofJson_object_iff {ms : List (String × Value)} {p : ProximityParams} :
    ProximityParams.ofJson (.object ms) = .ok p ↔
      Holds ms "qf" asString p.field ∧ HoldsOr ms "mm" none asOptionalString p.minimum ∧
        HoldsOr ms "mode" .standard Mode.ofJson p.mode := by
  have hreads := ((readsFields_field ms layout "qf" asString).both
    ((readsFields_fieldOr ms layout "mm" none asOptionalString).both
      (readsFields_fieldOr ms layout "mode" .standard Mode.ofJson))).map
    fun read => ProximityParams.mk read.1 read.2.1 read.2.2
  refine hreads.conclude_iff.trans ⟨?_, fun h => ⟨(p.field, p.minimum, p.mode), h, rfl⟩⟩
  rintro ⟨⟨field, minimum, mode⟩, h, rfl⟩
  exact h

theorem CapitalizationParams.ofJson_object_iff {ms : List (String × Value)} {p : CapitalizationParams} :
    CapitalizationParams.ofJson (.object ms) = .ok p ↔ Holds ms "qf" asString p.field := by
  have hreads := (readsFields_field ms layout "qf" asString).map CapitalizationParams.mk
  refine hreads.conclude_iff.trans ⟨?_, fun h => ⟨p.field, h, rfl⟩⟩
  rintro ⟨field, h, rfl⟩
  exact h

/-- The members that make an object a request. -/
def Request.HeldBy (ms : List (String × Value)) : Request → Prop
  | proximity q params analyzer =>
    Holds ms "parser" (variantOfTag .outermost union.variants) .proximity ∧ Holds ms "q" asString q ∧
      Holds ms "qf" asString params.field ∧ HoldsOr ms "mm" none asOptionalString params.minimum ∧
      HoldsOr ms "mode" .standard (nameInside Mode.names) params.mode ∧
      HoldsOr ms "analyzer" none asOptionalString analyzer
  | capitalization q params analyzer =>
    Holds ms "parser" (variantOfTag .outermost union.variants) .capitalization ∧ Holds ms "q" asString q ∧
      Holds ms "qf" asString params.field ∧ HoldsOr ms "analyzer" none asOptionalString analyzer

theorem Request.ofFields_proximity_iff {ms : List (String × Value)} {r : Request} :
    ofFields .proximity (.members ms) = .ok r ↔ ∃ q params analyzer, r = .proximity q params analyzer ∧
      Holds ms "q" asString q ∧ Holds ms "qf" asString params.field ∧
      HoldsOr ms "mm" none asOptionalString params.minimum ∧
      HoldsOr ms "mode" .standard (nameInside Mode.names) params.mode ∧
      HoldsOr ms "analyzer" none asOptionalString analyzer := by
  have hreads := ((readsFields_field ms proximityLayout "q" asString).both
    ((readsFields_field ms proximityLayout "qf" asString).both
      ((readsFields_fieldOr ms proximityLayout "mm" none asOptionalString).both
        ((readsFields_fieldOr ms proximityLayout "mode" .standard (nameInside Mode.names)).both
          (readsFields_fieldOr ms proximityLayout "analyzer" none asOptionalString))))).map
    fun read => Request.proximity read.1 ⟨read.2.1, read.2.2.1, read.2.2.2.1⟩ read.2.2.2.2
  refine hreads.conclude_iff.trans ⟨?_, ?_⟩
  · rintro ⟨⟨q, field, minimum, mode, analyzer⟩, h, rfl⟩
    exact ⟨q, ⟨field, minimum, mode⟩, analyzer, rfl, h⟩
  · rintro ⟨q, params, analyzer, rfl, h⟩
    exact ⟨(q, params.field, params.minimum, params.mode, analyzer), h, rfl⟩

theorem Request.ofFields_capitalization_iff {ms : List (String × Value)} {r : Request} :
    ofFields .capitalization (.members ms) = .ok r ↔ ∃ q params analyzer, r = .capitalization q params analyzer ∧
      Holds ms "q" asString q ∧ Holds ms "qf" asString params.field ∧
      HoldsOr ms "analyzer" none asOptionalString analyzer := by
  have hreads := ((readsFields_field ms capitalizationLayout "q" asString).both
    ((readsFields_field ms capitalizationLayout "qf" asString).both
      (readsFields_fieldOr ms capitalizationLayout "analyzer" none asOptionalString))).map
    fun read => Request.capitalization read.1 ⟨read.2.1⟩ read.2.2
  refine hreads.conclude_iff.trans ⟨?_, ?_⟩
  · rintro ⟨⟨q, field, analyzer⟩, h, rfl⟩
    exact ⟨q, ⟨field⟩, analyzer, rfl, h⟩
  · rintro ⟨q, params, analyzer, rfl, h⟩
    exact ⟨(q, params.field, analyzer), h, rfl⟩

/-- The tag decides which fields the other members are read as. -/
theorem Request.ofJson_tag_iff {ms : List (String × Value)} {r : Request} :
    Request.ofJson (.object ms) = .ok r ↔ ∃ kind, Holds ms "parser" (variantOfTag .outermost union.variants) kind ∧
      ofFields kind (.members (ms.filter fun m => m.1 ≠ union.tag)) = .ok r := by
  unfold Request.ofJson
  cases h : union.split .outermost (.object ms) with
  | error e =>
    refine iff_of_false nofun ?_
    rintro ⟨kind, hkind, -⟩
    exact absurd (h.symm.trans (split_object_iff.mpr ⟨hkind, rfl⟩)) nofun
  | ok kr =>
    obtain ⟨kind, rest⟩ := kr
    obtain ⟨hkind, rfl⟩ := split_object_iff.mp h
    refine ⟨fun hr => ⟨kind, hkind, hr⟩, ?_⟩
    rintro ⟨kind', hkind', hr⟩
    have hsame := h.symm.trans (split_object_iff.mpr ⟨hkind', rfl⟩)
    cases hsame
    exact hr

theorem Request.ofJson_object_iff {ms : List (String × Value)} {r : Request} :
    Request.ofJson (.object ms) = .ok r ↔ r.HeldBy ms := by
  have hvalues : ∀ name, name ≠ "parser" → valuesOf name (ms.filter fun m => m.1 ≠ union.tag) = valuesOf name ms :=
    fun name h => valuesOf_filter_ne h ms
  have hq := hvalues "q" (by decide)
  have hqf := hvalues "qf" (by decide)
  have hmm := hvalues "mm" (by decide)
  have hmode := hvalues "mode" (by decide)
  have hanalyzer := hvalues "analyzer" (by decide)
  rw [ofJson_tag_iff]
  constructor
  · rintro ⟨kind, hkind, hr⟩
    cases kind with
    | proximity =>
      obtain ⟨q, params, analyzer, rfl, hfields⟩ := ofFields_proximity_iff.mp hr
      simp only [Holds, HoldsOr, hq, hqf, hmm, hmode, hanalyzer] at hfields
      exact ⟨hkind, hfields⟩
    | capitalization =>
      obtain ⟨q, params, analyzer, rfl, hfields⟩ := ofFields_capitalization_iff.mp hr
      simp only [Holds, HoldsOr, hq, hqf, hanalyzer] at hfields
      exact ⟨hkind, hfields⟩
  · intro h
    cases r with
    | proximity q params analyzer =>
      obtain ⟨hkind, hfields⟩ := h
      refine ⟨.proximity, hkind, ofFields_proximity_iff.mpr ⟨q, params, analyzer, rfl, ?_⟩⟩
      simpa only [Holds, HoldsOr, hq, hqf, hmm, hmode, hanalyzer] using hfields
    | capitalization q params analyzer =>
      obtain ⟨hkind, hfields⟩ := h
      refine ⟨.capitalization, hkind, ofFields_capitalization_iff.mpr ⟨q, params, analyzer, rfl, ?_⟩⟩
      simpa only [Holds, HoldsOr, hq, hqf, hanalyzer] using hfields

/-! ## Documents -/

/-- However a document is written, it is read as `a`: with its members as printed, with the texts of its members in any
order, among further members, and without members that may be left out. If the text of an object is read as `a`, it
consists of the texts of its members, and so is any rearrangement of them. -/
structure HoweverWritten {α : Type} (scope : Scope) (ofText : String → Outcome α) (known : List String)
    (defaults full : List (String × Value)) (a : α) : Prop where
  printed : ∀ ms, Rewritten known defaults full ms → (Value.object ms).Whole → (Value.object ms).depth ≤ maxDepth →
    ofText (Value.object ms).text = .ok a
  rewritten : ∀ ms segs before after, Rewritten known defaults full ms → List.Forall₂ (MemberText scope) segs ms →
    (∀ c ∈ before, isSpace c = true) → (∀ c ∈ after, isSpace c = true) →
    ofText (objectText before segs after) = .ok a
  rearranged : ∀ ms text, readWithin scope text = .ok (.object ms) → ofText text = .ok a →
    ∃ before segs after, (∀ c ∈ before, isSpace c = true) ∧ (∀ c ∈ after, isSpace c = true) ∧
      text = objectText before segs after ∧ List.Forall₂ (MemberText scope) segs ms ∧
      ∀ segs', segs'.Perm segs → ofText (objectText before segs' after) = .ok a

theorem howeverWritten {α : Type} {scope : Scope} {ofText : String → Outcome α} {decode : Value → Except Json.Fault α}
    (htext : ∀ text a, ofText text = .ok a ↔ ∃ v, readWithin scope text = .ok v ∧ decode v = .ok a)
    {a : α} {Held : List (String × Value) → Prop} (hobject : ∀ ms, decode (.object ms) = .ok a ↔ Held ms)
    (hperm : ∀ ms ns, ms.Perm ns → Held ms → Held ns) (hne : ¬Held [])
    {known : List String} {defaults full : List (String × Value)}
    (hrewritten : ∀ ms, Rewritten known defaults full ms → Held ms) :
    HoweverWritten scope ofText known defaults full a := by
  have hread : ∀ {ms segs before after}, Held ms → List.Forall₂ (MemberText scope) segs ms →
      (∀ c ∈ before, isSpace c = true) → (∀ c ∈ after, isSpace c = true) →
      ofText (objectText before segs after) = .ok a := by
    intro ms segs before after hheld hsegs hbefore hafter
    have hms : ms ≠ [] := by
      rintro rfl
      exact hne hheld
    exact (htext _ a).mpr ⟨.object ms, readWithin_objectText hbefore hafter hsegs hms, (hobject ms).mpr hheld⟩
  constructor
  · intro ms hms hwhole hdepth
    have hprinted : readWithin scope ((Value.object ms).text ++ "") = .ok (.object ms) :=
      readWithin_text hwhole (by rintro ⟨n, ⟨⟩⟩) scope (by simp) hdepth
    rw [String.append_empty] at hprinted
    exact (htext _ a).mpr ⟨.object ms, hprinted, (hobject ms).mpr (hrewritten ms hms)⟩
  · exact fun ms segs before after hms => hread (hrewritten ms hms)
  · intro ms text hms ha
    obtain ⟨v, hv, ha⟩ := (htext text a).mp ha
    obtain rfl := Except.ok.inj (hms.symm.trans hv)
    have hheld := (hobject ms).mp ha
    have hms' : ms ≠ [] := by
      rintro rfl
      exact hne hheld
    obtain ⟨before, segs, after, hbefore, hafter, htext', hsegs⟩ := exists_objectText hms hms'
    refine ⟨before, segs, after, hbefore, hafter, htext', hsegs, fun segs' hsegs' => ?_⟩
    obtain ⟨ns, hns, hnsms⟩ := List.perm_comp_forall₂ hsegs' hsegs
    exact hread (hperm ms ns hnsms.symm hheld) hns hbefore hafter

theorem Request.ofText_eq_ok_iff (text : String) (r : Request) :
    Request.ofText text = .ok r ↔ ∃ v, readWithin .all text = .ok v ∧ Request.ofJson v = .ok r := by
  unfold Request.ofText Tagged.read Json.read
  cases readWithin .all text with
  | ok v =>
    cases h : Request.ofJson v <;> simp [h, documentOutcome]
  | error e =>
    simp only [reduceCtorEq, false_and, exists_false, iff_false]
    split
    · rename_i v _
      cases Request.ofJson v <;> simp [documentOutcome, bind, Except.bind]
    · simp [documentOutcome]

theorem readMembers_eq_ok_iff {α : Type} {names : List String} {decode : Value → Except Json.Fault α} (text : String)
    (a : α) : documentOutcome (readMembers names text >>= decode) = .ok a ↔
      ∃ v, readWithin (.members names) text = .ok v ∧ decode v = .ok a := by
  unfold readMembers
  cases readWithin (.members names) text with
  | error e => simp [documentOutcome, bind, Except.bind]
  | ok v => cases h : decode v <;> simp [h, documentOutcome, bind, Except.bind]

/-! ## Requests -/

namespace Request

/-- The members of a request. -/
def members : Request → List (String × Value)
  | proximity q params analyzer =>
    [("parser", .string "proximity"), ("q", .string q), ("qf", .string params.field),
      ("mm", optionalString params.minimum), ("mode", .string params.mode.name),
      ("analyzer", optionalString analyzer)]
  | capitalization q params analyzer =>
    [("parser", .string "capitalization"), ("q", .string q), ("qf", .string params.field),
      ("analyzer", optionalString analyzer)]

/-- The names that mean something in a request of this kind. -/
def known : Request → List String
  | proximity .. => union.tag :: proximityLayout.fields
  | capitalization .. => union.tag :: capitalizationLayout.fields

/-- The members that may be left out. -/
def defaults : List (String × Value) :=
  [("mm", .null), ("mode", .string Mode.standard.name), ("analyzer", .null)]

/-- The elements of a request that is written as an array. -/
def elements : Request → List Value
  | proximity q params analyzer =>
    [.string "proximity", .string q, .string params.field, optionalString params.minimum, .string params.mode.name,
      optionalString analyzer]
  | capitalization q params analyzer =>
    [.string "capitalization", .string q, .string params.field, optionalString analyzer]

theorem toJson_eq (r : Request) : r.toJson = .object r.members := by
  cases r <;> rfl

theorem asOptionalString_optionalString (s : Option String) : asOptionalString (optionalString s) = .ok s := by
  cases s <;> rfl

theorem nameInside_mode (mode : Mode) : nameInside Mode.names (.string mode.name) = .ok mode := by
  cases mode <;> rfl

theorem heldBy_members (r : Request) : r.HeldBy r.members := by
  cases r with
  | proximity q params analyzer =>
    refine ⟨⟨.string "proximity", ?_, rfl⟩, ⟨.string q, ?_, rfl⟩, ⟨.string params.field, ?_, rfl⟩,
      .inl ⟨_, ?_, asOptionalString_optionalString _⟩, .inl ⟨_, ?_, nameInside_mode _⟩,
      .inl ⟨_, ?_, asOptionalString_optionalString _⟩⟩ <;> simp [members, valuesOf]
  | capitalization q params analyzer =>
    refine ⟨⟨.string "capitalization", ?_, rfl⟩, ⟨.string q, ?_, rfl⟩, ⟨.string params.field, ?_, rfl⟩,
      .inl ⟨_, ?_, asOptionalString_optionalString _⟩⟩ <;> simp [members, valuesOf]

theorem length_valuesOf_members (r : Request) : ∀ name ∈ r.known, (valuesOf name r.members).length ≤ 1 := by
  cases r <;> simp [known, members, valuesOf, union, proximityLayout, capitalizationLayout]

theorem heldBy_of_rewritten {r : Request} {ms : List (String × Value)} (h : Rewritten r.known defaults r.members ms) :
    r.HeldBy ms := by
  have hkept := h.kept r.length_valuesOf_members
  have hheld := r.heldBy_members
  have hmm : ∀ v, ("mm", v) ∈ defaults → asOptionalString v = .ok none := by simp [defaults, asOptionalString]
  have hmode : ∀ v, ("mode", v) ∈ defaults → nameInside Mode.names v = .ok .standard := by
    simp [defaults, nameInside_mode]
  have hanalyzer : ∀ v, ("analyzer", v) ∈ defaults → asOptionalString v = .ok none := by
    simp [defaults, asOptionalString]
  cases r with
  | proximity q params analyzer =>
    simp only [known, union, proximityLayout, List.forall_mem_cons] at hkept
    obtain ⟨kparser, kq, kqf, kmm, kmode, kanalyzer, -⟩ := hkept
    obtain ⟨hparser, hq, hqf, hm, hmo, han⟩ := hheld
    exact ⟨hparser.of_kept kparser (by simp [defaults]), hq.of_kept kq (by simp [defaults]),
      hqf.of_kept kqf (by simp [defaults]), hm.of_kept kmm hmm, hmo.of_kept kmode hmode,
      han.of_kept kanalyzer hanalyzer⟩
  | capitalization q params analyzer =>
    simp only [known, union, capitalizationLayout, List.forall_mem_cons] at hkept
    obtain ⟨kparser, kq, kqf, kanalyzer, -⟩ := hkept
    obtain ⟨hparser, hq, hqf, han⟩ := hheld
    exact ⟨hparser.of_kept kparser (by simp [defaults]), hq.of_kept kq (by simp [defaults]),
      hqf.of_kept kqf (by simp [defaults]), han.of_kept kanalyzer hanalyzer⟩

theorem HeldBy.of_perm {r : Request} {ms ns : List (String × Value)} (hperm : ms.Perm ns) (h : r.HeldBy ms) :
    r.HeldBy ns := by
  have hvalues := valuesOf_perm hperm
  cases r with
  | proximity q params analyzer =>
    obtain ⟨hparser, hq, hqf, hmm, hmode, hanalyzer⟩ := h
    exact ⟨hparser.of_perm (hvalues _), hq.of_perm (hvalues _), hqf.of_perm (hvalues _), hmm.of_perm (hvalues _),
      hmode.of_perm (hvalues _), hanalyzer.of_perm (hvalues _)⟩
  | capitalization q params analyzer =>
    obtain ⟨hparser, hq, hqf, hanalyzer⟩ := h
    exact ⟨hparser.of_perm (hvalues _), hq.of_perm (hvalues _), hqf.of_perm (hvalues _), hanalyzer.of_perm (hvalues _)⟩

theorem not_heldBy_nil (r : Request) : ¬r.HeldBy [] := by
  cases r <;> rintro ⟨⟨v, hv, -⟩, -⟩ <;> cases hv

theorem ofText_howeverWritten (r : Request) : HoweverWritten .all Request.ofText r.known defaults r.members r :=
  howeverWritten ofText_eq_ok_iff (fun _ => ofJson_object_iff) (fun _ _ => HeldBy.of_perm) r.not_heldBy_nil
    fun _ => heldBy_of_rewritten

theorem ofJson_elements (r : Request) : Request.ofJson (.array r.elements) = .ok r := by
  rcases r with ⟨q, ⟨field, _ | minimum, _ | _⟩, _ | analyzer⟩ | ⟨q, ⟨field⟩, _ | analyzer⟩ <;> rfl

theorem whole_optionalString (s : Option String) : (optionalString s).Whole := by
  cases s with
  | none => exact .null
  | some s => exact .string s

theorem whole_members (r : Request) : (Value.object r.members).Whole := by
  refine .object ?_
  cases r <;> simp only [members, List.forall_mem_cons] <;> simp [Value.Whole.string, whole_optionalString]

theorem whole_elements (r : Request) : (Value.array r.elements).Whole := by
  refine .array ?_
  cases r <;> simp only [elements, List.forall_mem_cons] <;> simp [Value.Whole.string, whole_optionalString]

theorem depth_optionalString (s : Option String) : (optionalString s).depth = 0 := by
  cases s <;> rfl

theorem depth_members (r : Request) : (Value.object r.members).depth = 1 := by
  cases r <;> simp [members, Value.depth, Value.membersDepth, depth_optionalString]

theorem depth_elements (r : Request) : (Value.array r.elements).depth = 1 := by
  cases r <;> simp [elements, Value.depth, Value.itemsDepth, depth_optionalString]

theorem read_toJson (r : Request) : Json.read r.toJson.text = .ok r.toJson := by
  have hread : Json.read ((Value.object r.members).text ++ "") = .ok (.object r.members) :=
    read_text r.whole_members (by rintro ⟨n, ⟨⟩⟩) (by simp) (by rw [depth_members]; decide)
  rwa [String.append_empty, ← toJson_eq] at hread

theorem ofText_toJson (r : Request) : Request.ofText r.toJson.text = .ok r :=
  (ofText_eq_ok_iff _ r).mpr ⟨r.toJson, r.read_toJson, by rw [toJson_eq]; exact ofJson_object_iff.mpr r.heldBy_members⟩

theorem ofText_of_read_elements {r : Request} {text : String} (h : Json.read text = .ok (.array r.elements)) :
    Request.ofText text = .ok r :=
  (ofText_eq_ok_iff text r).mpr ⟨_, h, r.ofJson_elements⟩

theorem read_elements (r : Request) : Json.read (Value.array r.elements).text = .ok (.array r.elements) := by
  have hread : Json.read ((Value.array r.elements).text ++ "") = .ok (.array r.elements) :=
    read_text r.whole_elements (by rintro ⟨n, ⟨⟩⟩) (by simp) (by rw [depth_elements]; decide)
  rwa [String.append_empty] at hread

end Request

/-! ## Parameters -/

namespace ProximityParams

/-- The members of the parameters of a proximity expression. -/
def members (p : ProximityParams) : List (String × Value) :=
  [("qf", .string p.field), ("mm", Request.optionalString p.minimum), ("mode", .string p.mode.name)]

/-- The members that may be left out. -/
def defaults : List (String × Value) :=
  [("mm", .null), ("mode", .string Mode.standard.name)]

theorem rewritten_toJson (p : ProximityParams) :
    ∃ ms, p.toJson = .object ms ∧ Rewritten layout.fields defaults p.members ms := by
  obtain ⟨field, _ | minimum, mode⟩ := p
  · refine ⟨_, rfl, .leftOut (m := ("mm", .null)) (by simp [defaults]) (.reordered (.swap _ _ _) .refl)⟩
  · exact ⟨_, rfl, .refl⟩

theorem ofJson_mode (mode : Mode) : Mode.ofJson (.string mode.name) = .ok mode := by
  cases mode <;> rfl

theorem ofText_howeverWritten (p : ProximityParams) :
    HoweverWritten (.members layout.fields) ProximityParams.ofText layout.fields defaults p.members p := by
  refine howeverWritten readMembers_eq_ok_iff (fun _ => ofJson_object_iff) ?_ ?_ ?_
  · rintro ms ns hperm ⟨hqf, hmm, hmode⟩
    have hvalues := valuesOf_perm hperm
    exact ⟨hqf.of_perm (hvalues _), hmm.of_perm (hvalues _), hmode.of_perm (hvalues _)⟩
  · rintro ⟨⟨v, hv, -⟩, -⟩
    cases hv
  · intro ms h
    have hkept := h.kept (by simp [layout, members, valuesOf])
    simp only [layout, List.forall_mem_cons] at hkept
    obtain ⟨kqf, kmm, kmode, -⟩ := hkept
    have hqf : Holds p.members "qf" asString p.field := ⟨.string p.field, by simp [members, valuesOf], rfl⟩
    have hmm : HoldsOr p.members "mm" none asOptionalString p.minimum :=
      .inl ⟨_, by simp [members, valuesOf], Request.asOptionalString_optionalString _⟩
    have hmode : HoldsOr p.members "mode" .standard Mode.ofJson p.mode :=
      .inl ⟨_, by simp [members, valuesOf], ofJson_mode _⟩
    exact ⟨hqf.of_kept kqf (by simp [defaults]), hmm.of_kept kmm (by simp [defaults, asOptionalString]),
      hmode.of_kept kmode (by simp [defaults, ofJson_mode])⟩

theorem ofText_toJson (p : ProximityParams) : ProximityParams.ofText p.toJson.text = .ok p := by
  obtain ⟨ms, hms, hrewritten⟩ := p.rewritten_toJson
  rw [hms]
  refine p.ofText_howeverWritten.printed ms hrewritten ?_ ?_ <;> rw [← hms] <;> obtain ⟨field, _ | minimum, mode⟩ := p
  · exact .object (by simp [Value.Whole.string])
  · exact .object (by simp [Value.Whole.string])
  · simp [toJson, Value.depth, Value.membersDepth, maxDepth]
  · simp [toJson, Value.depth, Value.membersDepth, maxDepth]

/-- Where nothing but the field is said, the defaults are meant. -/
theorem ofText_ofField (field : String) :
    ProximityParams.ofText (Value.object [("qf", .string field)]).text = .ok (ofField field) := by
  have hrest : Rewritten layout.fields defaults (ofField field).members [("mm", .null), ("qf", .string field)] :=
    .leftOut (m := ("mode", .string Mode.standard.name)) (by simp [defaults])
      (.reordered (List.reverse_perm _).symm .refl)
  have hbare : Rewritten layout.fields defaults (ofField field).members [("qf", .string field)] :=
    .leftOut (m := ("mm", .null)) (by simp [defaults]) hrest
  refine (ofField field).ofText_howeverWritten.printed _ hbare ?_ ?_
  · exact .object (by simp [Value.Whole.string])
  · simp [Value.depth, Value.membersDepth, maxDepth]

end ProximityParams

namespace CapitalizationParams

/-- The members of the parameters of a capitalization expression. -/
def members (p : CapitalizationParams) : List (String × Value) :=
  [("qf", .string p.field)]

theorem ofText_howeverWritten (p : CapitalizationParams) :
    HoweverWritten (.members layout.fields) CapitalizationParams.ofText layout.fields [] p.members p := by
  refine howeverWritten readMembers_eq_ok_iff (fun _ => ofJson_object_iff) ?_ ?_ ?_
  · exact fun ms ns hperm h => h.of_perm (valuesOf_perm hperm _)
  · rintro ⟨v, hv, -⟩
    cases hv
  · intro ms h
    have hkept := h.kept (by simp [layout, members, valuesOf])
    have hqf : Holds p.members "qf" asString p.field := ⟨.string p.field, by simp [members, valuesOf], rfl⟩
    exact hqf.of_kept (hkept _ (by simp [layout])) (by simp)

theorem ofText_toJson (p : CapitalizationParams) : CapitalizationParams.ofText p.toJson.text = .ok p :=
  p.ofText_howeverWritten.printed _ .refl (.object (by simp [Value.Whole.string]))
    (by simp [Value.depth, Value.membersDepth, maxDepth])

end CapitalizationParams

/-! ## However they are written -/

/-- Requests and parameters mean the same however they are written. Any key and any value that are each read on their
own, the value with room for one more level, are together the text of a member. -/
theorem documents_however_written :
    (∀ r : Request, Request.ofText r.toJson.text = .ok r ∧
      HoweverWritten .all Request.ofText r.known Request.defaults r.members r ∧
      Request.ofText (Value.array r.elements).text = .ok r ∧
      ∀ text, Json.read text = .ok (.array r.elements) → Request.ofText text = .ok r) ∧
    (∀ p : ProximityParams, ProximityParams.ofText p.toJson.text = .ok p ∧
      HoweverWritten (.members ProximityParams.layout.fields) ProximityParams.ofText ProximityParams.layout.fields
        ProximityParams.defaults p.members p) ∧
    (∀ p : CapitalizationParams, CapitalizationParams.ofText p.toJson.text = .ok p ∧
      HoweverWritten (.members CapitalizationParams.layout.fields) CapitalizationParams.ofText
        CapitalizationParams.layout.fields [] p.members p) ∧
    ∀ (scope : Scope) (key value : String) (k : String) (v : Value), Json.read key = .ok (.string k) →
      Json.read value = .ok v → v.depth < maxDepth → MemberText scope (key.toList ++ ':' :: value.toList) (k, v) := by
  refine ⟨fun r => ⟨r.ofText_toJson, r.ofText_howeverWritten, ?_, fun _ => Request.ofText_of_read_elements⟩,
    fun p => ⟨p.ofText_toJson, p.ofText_howeverWritten⟩, fun p => ⟨p.ofText_toJson, p.ofText_howeverWritten⟩,
    fun scope key value k v => memberText_key_value⟩
  exact Request.ofText_of_read_elements r.read_elements

theorem documents_however_written_tag_late :
    Request.ofText ("\x7b\"mm\":[1,\x7b\"a\":null\x7d], \"q\":\"a\",\"qf\":\"f\","
          ++ "\"parser\":\"capitalization\",\"mm\" : 5\x7d") =
        .ok (.capitalization "a" ⟨"f"⟩ none) ∧
      Request.ofText "[\"capitalization\", \"a\", \"f\", null]" = .ok (.capitalization "a" ⟨"f"⟩ none) := by
  obtain ⟨hrequest, -, -, hmember⟩ := documents_however_written
  obtain ⟨-, hwritten, -, harray⟩ := hrequest (.capitalization "a" ⟨"f"⟩ none)
  -- the texts of the members
  have hnested : Json.read "[1,\x7b\"a\":null\x7d]" = .ok (.array [.number (.integer 1), .object [("a", .null)]]) := rfl
  have hmm := hmember .all "\"mm\"" "[1,\x7b\"a\":null\x7d]" "mm" _ rfl hnested (by decide)
  have hq := hmember .all " \"q\"" "\"a\"" "q" (.string "a") rfl rfl (by decide)
  have hqf := hmember .all "\"qf\"" "\"f\"" "qf" (.string "f") rfl rfl (by decide)
  have hparser := hmember .all "\"parser\"" "\"capitalization\"" "parser" (.string "capitalization") rfl rfl (by decide)
  have hmm' := hmember .all "\"mm\" " " 5" "mm" (.number (.integer 5)) rfl rfl (by decide)
  -- the analyzer is left out, the tag comes late, and a name of the other kind stands twice
  have hrest : Rewritten (Request.known (.capitalization "a" ⟨"f"⟩ none)) Request.defaults
      (Request.members (.capitalization "a" ⟨"f"⟩ none))
      [("parser", .string "capitalization"), ("q", .string "a"), ("qf", .string "f")] :=
    .leftOut (m := ("analyzer", .null)) (by simp [Request.defaults])
      (.reordered (List.perm_append_singleton ("analyzer", Value.null) [_, _, _]) .refl)
  have hlate := hrest.reordered (List.perm_append_singleton _ [("q", .string "a"), ("qf", .string "f")]).symm
  have hfive := (hlate.inserted (m := ("mm", .number (.integer 5))) (by decide)).reordered
    (List.perm_append_singleton _ _).symm
  have hms := hfive.inserted (m := ("mm", .array [.number (.integer 1), .object [("a", .null)]])) (by decide)
  have hdocument := hwritten.rewritten _ _ [] [] hms
    (.cons hmm (.cons hq (.cons hqf (.cons hparser (.cons hmm' .nil))))) nofun nofun
  exact ⟨hdocument, harray _ rfl⟩

end Proximity
