import Mathlib
import Proximity.Json.Record

/-! Written records are read back: a field from the member with its name, a list from its items, an integer of
some bits from its number, and a tagged record from the members behind its tag. -/
namespace Proximity.Json
set_option autoImplicit false

/-! ## Plain fields -/

theorem asNatural_natural {limit : ℕ} (expected : String) {n : ℕ} (h : n < limit) :
    asNatural limit expected (.natural n) = .ok n := by
  have hrange : 0 ≤ (n : ℤ) ∧ (n : ℤ) < limit := ⟨Int.natCast_nonneg n, Int.ofNat_lt.mpr h⟩
  exact if_pos hrange

theorem asUInt32_natural (n : UInt32) : asUInt32 (.natural n.toNat) = .ok n := by
  rw [asUInt32, asNatural_natural "u32" n.toNat_lt]
  exact congrArg Except.ok UInt32.ofNat_toNat

theorem asUInt8_natural (n : UInt8) : asUInt8 (.natural n.toNat) = .ok n := by
  rw [asUInt8, asNatural_natural "u8" n.toNat_lt]
  exact congrArg Except.ok UInt8.ofNat_toNat

theorem asList_map {α : Type} {decode : Value → Except Fault α} {encode : α → Value} {as : List α}
    (h : ∀ a ∈ as, decode (encode a) = .ok a) : asList decode (.array (as.map encode)) = .ok as := by
  rw [asList]
  induction as with
  | nil => rfl
  | cons a as ih =>
    have hfirst := h a (List.mem_cons_self ..)
    have hrest := ih fun x hx => h x (List.mem_cons_of_mem a hx)
    simp only [List.map_cons, List.mapM_cons, hfirst, hrest, bind, Except.bind, pure, Except.pure]

/-! ## Records -/

theorem field_member {α : Type} {decode : Value → Except Fault α} (l : Layout) {name : String}
    {ms : List (String × Value)} {i : ℕ} {v : Value} {a : α} (hfind : lookup name ms 0 = some (i, v))
    (h : decode v = .ok a) : (Record.members ms).field l name decode = .ok a := by
  simp only [Record.field, Record.find, hfind, h]

/-- A tag in front of members with other names is taken out of them. -/
theorem split_tagged {α : Type} {u : Tagged α} (level : Level) {name : String} {a : α}
    (hname : u.variants.lookup name = some a) {ms : List (String × Value)} (hms : ∀ m ∈ ms, m.1 ≠ u.tag) :
    u.split level (.object ((u.tag, .string name) :: ms)) = .ok (a, .members ms) := by
  have hnone : ms.filter (fun m => m.1 = u.tag) = [] := by
    rw [List.filter_eq_nil_iff]
    intro m hm
    simpa using hms m hm
  have hall : ms.filter (fun m => m.1 ≠ u.tag) = ms := by
    rw [List.filter_eq_self]
    intro m hm
    simpa using hms m hm
  have htags : ((u.tag, Value.string name) :: ms).filter (fun m => m.1 = u.tag) = [(u.tag, .string name)] := by
    simp only [List.filter_cons, hnone, decide_true, if_true]
  have hrest : ((u.tag, Value.string name) :: ms).filter (fun m => m.1 ≠ u.tag) = ms := by
    simp only [List.filter_cons, hall, ne_eq, not_true, decide_false, Bool.false_eq_true, if_false]
  simp only [Tagged.split, htags, hrest, variantOfTag, variantNamed, hname, bind, Except.bind]
  rfl

/-! ## Depth -/

theorem depth_le_itemsDepth {v : Value} {vs : List Value} (h : v ∈ vs) : v.depth ≤ Value.itemsDepth vs := by
  induction vs with
  | nil => cases h
  | cons w vs ih =>
    rw [Value.itemsDepth]
    rcases List.mem_cons.mp h with rfl | h
    · exact Nat.le_max_left ..
    · exact (ih h).trans (Nat.le_max_right ..)

theorem itemsDepth_le {vs : List Value} {d : ℕ} (h : ∀ v ∈ vs, v.depth ≤ d) : Value.itemsDepth vs ≤ d := by
  induction vs with
  | nil => exact Nat.zero_le d
  | cons v vs ih =>
    rw [Value.itemsDepth]
    exact Nat.max_le.mpr ⟨h v (List.mem_cons_self ..), ih fun x hx => h x (List.mem_cons_of_mem v hx)⟩

end Proximity.Json
