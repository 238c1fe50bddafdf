import Mathlib
import Proximity.Json.Record

/-! A record that is an object is read from the values that stand under each name, wherever they stand.

* `Holds`, `HoldsOr`: what a field says, and what it says where it may be left out.
* `ReadsFields`: a part of a record is read as what satisfies a predicate on its fields.
* `Rewritten`: the members of an object in another order, among others, and without defaults. -/
namespace Proximity.Json
set_option autoImplicit false

/-! ## Results without faults -/

section
variable {α β : Type}

/-- A part of a record that has been read without a fault. -/
def Partial.Gives (p : Partial α) (a : α) : Prop := p.faults = [] ∧ p.value = some a

theorem firstFault_eq_none_iff {xs : List (ℕ × Fault)} : Partial.firstFault xs = none ↔ xs = [] := by
  cases xs with
  | nil => exact iff_of_true rfl rfl
  | cons x xs =>
    rw [Partial.firstFault]
    split
    · simp
    · split_ifs <;> simp

theorem conclude_eq_ok_iff {p : Partial α} {others : List (ℕ × Fault)} {a : α} :
    p.conclude others = .ok a ↔ p.Gives a ∧ others = [] := by
  unfold Partial.conclude Partial.Gives
  cases h : Partial.firstFault (p.faults ++ others) with
  | some x =>
    have hne : ¬(p.faults = [] ∧ others = []) := by
      rintro ⟨hp, ho⟩
      simp [hp, ho, Partial.firstFault] at h
    simp only [reduceCtorEq, false_iff]
    tauto
  | none =>
    obtain ⟨hp, ho⟩ := List.append_eq_nil_iff.mp (firstFault_eq_none_iff.mp h)
    cases p.value <;> simp [hp, ho]

theorem gives_map_iff {p : Partial α} {f : α → β} {b : β} : (p.map f).Gives b ↔ ∃ a, p.Gives a ∧ f a = b := by
  simp [Partial.Gives, Partial.map, and_assoc]

theorem gives_both_iff {p : Partial α} {q : Partial β} {a : α} {b : β} :
    (p.both q).Gives (a, b) ↔ p.Gives a ∧ q.Gives b := by
  cases hp : p.value <;> cases hq : q.value <;> simp [Partial.Gives, Partial.both, hp, hq, and_assoc, and_left_comm]

end

/-! ## Members with a name -/

/-- The values that the members with a name have. -/
def valuesOf (name : String) (ms : List (String × Value)) : List Value :=
  (ms.filter fun m => m.1 = name).map Prod.snd

theorem valuesOf_cons (name : String) (m : String × Value) (ms : List (String × Value)) :
    valuesOf name (m :: ms) = if m.1 = name then m.2 :: valuesOf name ms else valuesOf name ms := by
  by_cases h : m.1 = name <;> simp [valuesOf, h]

theorem valuesOf_perm {ms ns : List (String × Value)} (h : ms.Perm ns) (name : String) :
    (valuesOf name ms).Perm (valuesOf name ns) :=
  (h.filter _).map _

theorem lookup_eq (name : String) (ms : List (String × Value)) (i : ℕ) :
    (lookup name ms i).map Prod.snd = (valuesOf name ms).head? := by
  induction ms generalizing i with
  | nil => rfl
  | cons m ms ih =>
    rw [lookup, valuesOf_cons]
    split_ifs
    · rfl
    · exact ih (i + 1)

theorem repeated_eq_nil_iff {known seen : List String} {ms : List (String × Value)} {i : ℕ} :
    repeated known seen ms i = [] ↔
      ∀ name ∈ known, (valuesOf name ms).length ≤ 1 ∧ (name ∈ seen → valuesOf name ms = []) := by
  induction ms generalizing seen i with
  | nil => simp [repeated, valuesOf]
  | cons m ms ih =>
    obtain ⟨k, v⟩ := m
    rw [repeated]
    split_ifs with hknown hseen
    · refine iff_of_false not_false fun h => ?_
      have hk := (h k hknown).2 hseen
      rw [valuesOf_cons, if_pos rfl] at hk
      exact List.cons_ne_nil _ _ hk
    · rw [ih]
      refine forall₂_congr fun name _ => ?_
      rw [valuesOf_cons]
      by_cases hk : k = name
      · subst hk
        simp only [if_pos, List.length_cons, List.mem_cons, true_or, hseen, false_imp_iff, true_imp_iff, and_true]
        constructor
        · rintro ⟨-, h⟩
          simp [h]
        · intro h
          have hnil : valuesOf k ms = [] := List.eq_nil_of_length_eq_zero (by omega)
          simp [hnil]
      · simp [hk, Ne.symm hk]
    · rw [ih]
      refine forall₂_congr fun name hname => ?_
      rw [valuesOf_cons, if_neg]
      rintro rfl
      exact hknown hname

/-- No known name stands twice. -/
theorem repeated_nil_eq_nil_iff {known : List String} {ms : List (String × Value)} :
    repeated known [] ms 0 = [] ↔ ∀ name ∈ known, (valuesOf name ms).length ≤ 1 := by
  simp [repeated_eq_nil_iff]

/-! ## Fields -/

section
variable {α : Type} {ms ns : List (String × Value)} {name : String} {decode : Value → Except Fault α} {default a : α}

/-- There is one member with a name, and its value stands for `a`. -/
def Holds (ms : List (String × Value)) (name : String) (decode : Value → Except Fault α) (a : α) : Prop :=
  ∃ v, valuesOf name ms = [v] ∧ decode v = .ok a

/-- There is one member with a name, and its value stands for `a`, or there is none and `a` is the default. -/
def HoldsOr (ms : List (String × Value)) (name : String) (default : α) (decode : Value → Except Fault α) (a : α) :
    Prop :=
  Holds ms name decode a ∨ valuesOf name ms = [] ∧ a = default

theorem Holds.length (h : Holds ms name decode a) : (valuesOf name ms).length ≤ 1 := by
  obtain ⟨v, hv, -⟩ := h
  rw [hv, List.length_singleton]

theorem HoldsOr.length (h : HoldsOr ms name default decode a) : (valuesOf name ms).length ≤ 1 := by
  rcases h with h | ⟨h, -⟩
  · exact h.length
  · rw [h]
    exact Nat.zero_le 1

theorem gives_field_iff (l : Layout) (hone : (valuesOf name ms).length ≤ 1) :
    ((Record.members ms).field l name decode).Gives a ↔ Holds ms name decode a := by
  have hlookup := lookup_eq name ms 0
  unfold Record.field Record.find Holds
  match hv : valuesOf name ms, hone with
  | [], _ =>
    rw [hv] at hlookup
    obtain hnone := Option.map_eq_none_iff.mp hlookup
    simp [hnone, Partial.Gives]
  | [v], _ =>
    rw [hv] at hlookup
    obtain ⟨⟨i, w⟩, hfind, rfl⟩ := Option.map_eq_some_iff.mp hlookup
    cases hd : decode w <;> simp [hfind, hd, Partial.Gives, Partial.ok, Partial.fault]

theorem gives_fieldOr_iff (l : Layout) (hone : (valuesOf name ms).length ≤ 1) :
    ((Record.members ms).fieldOr l name default decode).Gives a ↔ HoldsOr ms name default decode a := by
  have hlookup := lookup_eq name ms 0
  unfold Record.fieldOr Record.find HoldsOr Holds
  match hv : valuesOf name ms, hone with
  | [], _ =>
    rw [hv] at hlookup
    obtain hnone := Option.map_eq_none_iff.mp hlookup
    simp [hnone, Partial.Gives, Partial.ok, eq_comm]
  | [v], _ =>
    rw [hv] at hlookup
    obtain ⟨⟨i, w⟩, hfind, rfl⟩ := Option.map_eq_some_iff.mp hlookup
    cases hd : decode w <;> simp [hfind, hd, Partial.Gives, Partial.ok, Partial.fault]

/-- Where no known name stands twice, a part of a record is read as what satisfies `P`; and what satisfies `P`
leaves no name of that part twice. -/
structure ReadsFields {β : Type} (ms : List (String × Value)) (names : List String) (p : Partial β) (P : β → Prop) :
    Prop where
  gives_iff : (∀ name ∈ names, (valuesOf name ms).length ≤ 1) → ∀ b, p.Gives b ↔ P b
  once : ∀ b, P b → ∀ name ∈ names, (valuesOf name ms).length ≤ 1

theorem readsFields_field (ms : List (String × Value)) (l : Layout) (name : String) (decode : Value → Except Fault α) :
    ReadsFields ms [name] ((Record.members ms).field l name decode) (Holds ms name decode) := by
  refine ⟨fun h _ => gives_field_iff l (h name (List.mem_singleton_self _)), fun _ h => ?_⟩
  rw [List.forall_mem_singleton]
  exact h.length

theorem readsFields_fieldOr (ms : List (String × Value)) (l : Layout) (name : String) (default : α)
    (decode : Value → Except Fault α) :
    ReadsFields ms [name] ((Record.members ms).fieldOr l name default decode) (HoldsOr ms name default decode) := by
  refine ⟨fun h _ => gives_fieldOr_iff l (h name (List.mem_singleton_self _)), fun _ h => ?_⟩
  rw [List.forall_mem_singleton]
  exact h.length

theorem ReadsFields.both {β γ : Type} {names names' : List String} {p : Partial β} {q : Partial γ} {P : β → Prop}
    {Q : γ → Prop} (hp : ReadsFields ms names p P) (hq : ReadsFields ms names' q Q) :
    ReadsFields ms (names ++ names') (p.both q) fun bc => P bc.1 ∧ Q bc.2 := by
  constructor
  · rintro h ⟨b, c⟩
    rw [List.forall_mem_append] at h
    rw [gives_both_iff, hp.gives_iff h.1, hq.gives_iff h.2]
  · rintro ⟨b, c⟩ ⟨hb, hc⟩
    exact List.forall_mem_append.mpr ⟨hp.once b hb, hq.once c hc⟩

theorem ReadsFields.map {β γ : Type} {names : List String} {p : Partial β} {P : β → Prop}
    (hp : ReadsFields ms names p P) (f : β → γ) : ReadsFields ms names (p.map f) fun c => ∃ b, P b ∧ f b = c := by
  constructor
  · intro h c
    rw [gives_map_iff]
    exact exists_congr fun b => and_congr_left' (hp.gives_iff h b)
  · rintro c ⟨b, hb, -⟩
    exact hp.once b hb

/-- An object with known members is read as what its parts are read as. -/
theorem ReadsFields.conclude_iff {β : Type} {names : List String} {p : Partial β} {P : β → Prop}
    (hp : ReadsFields ms names p P) {b : β} : p.conclude (repeated names [] ms 0) = .ok b ↔ P b := by
  rw [conclude_eq_ok_iff, repeated_nil_eq_nil_iff]
  exact ⟨fun ⟨hb, h⟩ => (hp.gives_iff h b).mp hb, fun hb => ⟨(hp.gives_iff (hp.once b hb) b).mpr hb, hp.once b hb⟩⟩

theorem Holds.of_perm (h : Holds ms name decode a) (hperm : (valuesOf name ms).Perm (valuesOf name ns)) :
    Holds ns name decode a := by
  obtain ⟨v, hv, ha⟩ := h
  rw [hv] at hperm
  exact ⟨v, hperm.symm.eq_singleton, ha⟩

theorem HoldsOr.of_perm (h : HoldsOr ms name default decode a) (hperm : (valuesOf name ms).Perm (valuesOf name ns)) :
    HoldsOr ns name default decode a := by
  rcases h with h | ⟨h, rfl⟩
  · exact .inl (h.of_perm hperm)
  · rw [h] at hperm
    exact .inr ⟨hperm.symm.eq_nil, rfl⟩

end

/-! ## Tags -/

theorem valuesOf_filter_ne {tag name : String} (h : name ≠ tag) (ms : List (String × Value)) :
    valuesOf name (ms.filter fun m => m.1 ≠ tag) = valuesOf name ms := by
  induction ms with
  | nil => rfl
  | cons m ms ih =>
    rw [List.filter_cons, valuesOf_cons]
    by_cases hm : m.1 = tag
    · rw [if_neg (by simpa using hm), ih, if_neg fun hname => h (hname.symm.trans hm)]
    · rw [if_pos (by simpa using hm), valuesOf_cons, ih]

theorem split_object_iff {α : Type} {u : Tagged α} {level : Level} {ms : List (String × Value)} {a : α}
    {r : Record} : u.split level (.object ms) = .ok (a, r) ↔
      Holds ms u.tag (variantOfTag level u.variants) a ∧ r = .members (ms.filter fun m => m.1 ≠ u.tag) := by
  unfold Holds valuesOf
  match htags : ms.filter fun m => m.1 = u.tag with
  | [] => simp [Tagged.split, htags]
  | [t] =>
    cases h : variantOfTag level u.variants t.2 with
    | error e => simp [Tagged.split, htags, h, bind, Except.bind]
    | ok b =>
      simp only [Tagged.split, htags, h, bind, Except.bind, List.isEmpty_nil, if_true, pure, Except.pure,
        Except.ok.injEq, Prod.mk.injEq, List.map_cons, List.map_nil, List.cons.injEq, and_true, exists_eq_left']
      exact and_congr_right fun _ => eq_comm
  | t :: t' :: more =>
    cases h : variantOfTag level u.variants t.2 <;>
      simp [Tagged.split, htags, h, bind, Except.bind, throw, throwThe, MonadExceptOf.throw]

/-! ## Rewriting objects -/

/-- The members of an object written in another way: in another order, with further members of unknown names, and
without members that say what leaving them out says. -/
inductive Rewritten (known : List String) (defaults full : List (String × Value)) : List (String × Value) → Prop
  | refl : Rewritten known defaults full full
  | reordered {ms ns : List (String × Value)} (hperm : ms.Perm ns) (h : Rewritten known defaults full ms) :
    Rewritten known defaults full ns
  | inserted {ms : List (String × Value)} {m : String × Value} (hm : m.1 ∉ known)
    (h : Rewritten known defaults full ms) :
    Rewritten known defaults full (m :: ms)
  | leftOut {ms : List (String × Value)} {m : String × Value} (hm : m ∈ defaults)
    (h : Rewritten known defaults full (m :: ms)) : Rewritten known defaults full ms

/-- A member has been kept, or it has been left out and had a default value. -/
def Kept (defaults full ms : List (String × Value)) (name : String) : Prop :=
  valuesOf name ms = valuesOf name full ∨
    valuesOf name ms = [] ∧ ∃ v, (name, v) ∈ defaults ∧ valuesOf name full = [v]

theorem Rewritten.kept {known : List String} {defaults full ms : List (String × Value)}
    (h : Rewritten known defaults full ms) (hone : ∀ name ∈ known, (valuesOf name full).length ≤ 1) :
    ∀ name ∈ known, Kept defaults full ms name := by
  intro name hname
  induction h with
  | refl => exact .inl rfl
  | reordered hperm _ ih =>
    have hvalues := valuesOf_perm hperm name
    rcases ih with ih | ⟨hnil, hv⟩
    · rw [ih] at hvalues
      have hlen := hone name hname
      left
      match hfull : valuesOf name full, hlen with
      | [], _ => exact (hfull ▸ hvalues).symm.eq_nil
      | [v], _ => exact (hfull ▸ hvalues).symm.eq_singleton
    · rw [hnil] at hvalues
      exact .inr ⟨hvalues.symm.eq_nil, hv⟩
  | @inserted ms m hm _ ih =>
    have hne : m.1 ≠ name := fun h => hm (h ▸ hname)
    rwa [Kept, valuesOf_cons, if_neg hne]
  | @leftOut ms m hm _ ih =>
    obtain ⟨k, v⟩ := m
    rw [Kept, valuesOf_cons] at ih
    by_cases hk : k = name
    · subst hk
      rw [if_pos rfl] at ih
      rcases ih with ih | ⟨hnil, -⟩
      · have hlen := hone k hname
        rw [← ih, List.length_cons] at hlen
        have hnil : valuesOf k ms = [] := List.eq_nil_of_length_eq_zero (by omega)
        exact .inr ⟨hnil, v, hm, by rw [← ih, hnil]⟩
      · exact absurd hnil (List.cons_ne_nil _ _)
    · rwa [if_neg hk] at ih

section
variable {α : Type} {defaults full ms : List (String × Value)} {name : String} {decode : Value → Except Fault α}
  {default a : α}

theorem Holds.of_kept (h : Holds full name decode a) (hkept : Kept defaults full ms name)
    (hname : ∀ m ∈ defaults, m.1 ≠ name) : Holds ms name decode a := by
  rcases hkept with heq | ⟨-, v, hv, -⟩
  · rwa [Holds, heq]
  · exact absurd rfl (hname _ hv)

theorem HoldsOr.of_kept (h : HoldsOr full name default decode a) (hkept : Kept defaults full ms name)
    (hdefault : ∀ v, (name, v) ∈ defaults → decode v = .ok default) : HoldsOr ms name default decode a := by
  rcases hkept with heq | ⟨hnil, v, hv, hfull⟩
  · rwa [HoldsOr, Holds, heq]
  · rcases h with ⟨w, hw, ha⟩ | ⟨hnone, -⟩
    · obtain rfl := List.singleton_injective (hw.symm.trans hfull)
      rw [hdefault w hv] at ha
      exact .inr ⟨hnil, (Except.ok.inj ha).symm⟩
    · rw [hfull] at hnone
      exact absurd hnone (List.cons_ne_nil _ _)

end

end Proximity.Json
