import Mathlib
import Proximity.Text.CodePoints

/-! What a look-up in a table of code points says. A look-up finds only what lies in an entry, and in an ascending
table it finds all of that. Tables whose entries lie apart have no code point in common. -/
namespace Proximity.Text
set_option autoImplicit false

/-! ## Runs -/

/-- A code point in a run `(first, last, step)`. -/
structure InRun (u : ℕ × ℕ × ℕ) (n : ℕ) : Prop where
  low : u.1 ≤ n
  high : n ≤ u.2.1
  step : (n - u.1) % u.2.2 = 0

theorem exists_of_inRuns {table : List (ℕ × ℕ × ℕ)} {n : ℕ} (h : inRuns table n = true) :
    ∃ u ∈ table, InRun u n := by
  induction table with
  | nil => cases h
  | cons v rest ih =>
    rw [inRuns] at h
    split at h
    · cases h
    · next hlow =>
      split at h
      · next hin => exact ⟨v, List.mem_cons_self .., Nat.not_lt.mp hlow, hin.1, hin.2⟩
      · obtain ⟨u, hu, hn⟩ := ih h
        exact ⟨u, List.mem_cons_of_mem v hu, hn⟩

theorem inRuns_of_mem {table : List (ℕ × ℕ × ℕ)} (hs : (table.map Prod.fst).Pairwise (· ≤ ·))
    {u : ℕ × ℕ × ℕ} (hu : u ∈ table) {n : ℕ} (hn : InRun u n) : inRuns table n = true := by
  induction table with
  | nil => cases hu
  | cons v rest ih =>
    obtain ⟨hfirst, hrest⟩ := List.pairwise_cons.mp hs
    have hlow : v.1 ≤ n := by
      rcases List.mem_cons.mp hu with rfl | hu
      · exact hn.low
      · exact (hfirst u.1 (List.mem_map_of_mem hu)).trans hn.low
    rw [inRuns, if_neg (Nat.not_lt.mpr hlow)]
    split
    · rfl
    · next hnot =>
      rcases List.mem_cons.mp hu with rfl | hu
      · exact absurd ⟨hn.high, hn.step⟩ hnot
      · exact ih hrest hu

/-! ## Ranges -/

theorem exists_of_inRanges {table : List (ℕ × ℕ)} {n : ℕ} (h : inRanges table n = true) :
    ∃ e ∈ table, e.1 ≤ n ∧ n ≤ e.2 := by
  induction table with
  | nil => cases h
  | cons v rest ih =>
    rw [inRanges] at h
    split at h
    · cases h
    · next hlow =>
      split at h
      · next hhigh => exact ⟨v, List.mem_cons_self .., Nat.not_lt.mp hlow, hhigh⟩
      · obtain ⟨e, he, hn⟩ := ih h
        exact ⟨e, List.mem_cons_of_mem v he, hn⟩

theorem inRanges_of_mem {table : List (ℕ × ℕ)} (hs : (table.map Prod.fst).Pairwise (· ≤ ·))
    {e : ℕ × ℕ} (he : e ∈ table) {n : ℕ} (hlow : e.1 ≤ n) (hhigh : n ≤ e.2) : inRanges table n = true := by
  induction table with
  | nil => cases he
  | cons v rest ih =>
    obtain ⟨hfirst, hrest⟩ := List.pairwise_cons.mp hs
    have hv : v.1 ≤ n := by
      rcases List.mem_cons.mp he with rfl | he
      · exact hlow
      · exact (hfirst e.1 (List.mem_map_of_mem he)).trans hlow
    rw [inRanges, if_neg (Nat.not_lt.mpr hv)]
    split
    · rfl
    · next hnot =>
      rcases List.mem_cons.mp he with rfl | he
      · exact absurd hhigh hnot
      · exact ih hrest he

/-- Whether each range of one table lies before or behind each range of the other. -/
def tablesApart (s t : List (ℕ × ℕ)) : Bool :=
  s.all fun a => t.all fun b => Nat.blt a.2 b.1 || Nat.blt b.2 a.1

theorem not_in_both {s t : List (ℕ × ℕ)} (h : tablesApart s t = true) {a b : ℕ × ℕ} (ha : a ∈ s) (hb : b ∈ t)
    {n : ℕ} (hn : a.1 ≤ n ∧ n ≤ a.2) : ¬ (b.1 ≤ n ∧ n ≤ b.2) := by
  have hab := List.all_eq_true.mp (List.all_eq_true.mp h a ha) b hb
  simp only [Bool.or_eq_true, Nat.blt_eq] at hab
  omega

theorem inRanges_eq_false_of_apart {s t : List (ℕ × ℕ)} (h : tablesApart s t = true) {n : ℕ}
    (hn : inRanges s n = true) : inRanges t n = false := by
  obtain ⟨a, ha, hna⟩ := exists_of_inRanges hn
  by_contra hne
  obtain ⟨b, hb, hnb⟩ := exists_of_inRanges (Bool.eq_true_of_not_eq_false hne)
  exact not_in_both h ha hb hna hnb

end Proximity.Text
