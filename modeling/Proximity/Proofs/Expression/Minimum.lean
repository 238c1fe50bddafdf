import Mathlib
import Proximity.Expression.Compile

/-! The minimum of matching clauses in plain numbers. Up to `9 * 10 ^ 16` clauses the words of 64 bits do not
overflow, and the minimum is the rounded share, raised to one and capped at 32 bits.

* `round_share`: the share is the nearest whole number, halves upward.
* `minimumShouldMatch_mono`: more clauses or a greater percentage never lower the minimum.
* `minimumShouldMatch_rounded`: the minimum by its rounded share, its bounds and its zeros. -/
namespace Proximity
set_option autoImplicit false

/-- The share of `count` clauses that `percent` percent are, with halves upward. -/
def roundedShare (count percent : ℕ) : ℕ := (count * min percent 100 * 2 + 100) / 200

theorem roundedShare_le (count percent : ℕ) : roundedShare count percent ≤ count := by
  have hshare : count * min percent 100 ≤ count * 100 := Nat.mul_le_mul_left count (Nat.min_le_right ..)
  unfold roundedShare
  omega

theorem roundedShare_mono {count count' percent percent' : ℕ} (hc : count ≤ count') (hp : percent ≤ percent') :
    roundedShare count percent ≤ roundedShare count' percent' := by
  have hshare : min percent 100 ≤ min percent' 100 := by omega
  have hmul : count * min percent 100 ≤ count' * min percent' 100 := Nat.mul_le_mul hc hshare
  unfold roundedShare
  omega

theorem roundedShare_whole (count : ℕ) {percent : ℕ} (hp : 100 ≤ percent) : roundedShare count percent = count := by
  unfold roundedShare
  rw [Nat.min_eq_right hp]
  omega

theorem round_share (count percent : ℕ) :
    round ((count * min percent 100 : ℕ) / 100 : ℚ) = roundedShare count percent := by
  have hlow : 200 * roundedShare count percent ≤ count * min percent 100 * 2 + 100 := by
    unfold roundedShare
    omega
  have hhigh : count * min percent 100 * 2 + 100 < 200 * roundedShare count percent + 200 := by
    unfold roundedShare
    omega
  have hlow' : (200 * roundedShare count percent : ℚ) ≤ (count * min percent 100 : ℕ) * 2 + 100 := by
    exact_mod_cast hlow
  have hhigh' : ((count * min percent 100 : ℕ) * 2 + 100 : ℚ) < 200 * roundedShare count percent + 200 := by
    exact_mod_cast hhigh
  rw [round_eq_iff, Set.mem_Ico, Int.cast_natCast]
  constructor <;> linarith

/-! ## Words -/

theorem toNat_count {count : ℕ} (hc : count ≤ 9 * 10 ^ 16) : (UInt64.ofNat count).toNat = count :=
  UInt64.toNat_ofNat_of_lt' (by
    change count < 2 ^ 64
    omega)

theorem toNat_share (percent : UInt32) : (min percent 100).toUInt64.toNat = min percent.toNat 100 := by
  have h100 : (100 : UInt32).toNat = 100 := rfl
  rw [UInt32.toNat_toUInt64]
  change (if percent ≤ 100 then percent else 100).toNat = min percent.toNat 100
  split
  · next hle => rw [Nat.min_eq_left (h100 ▸ UInt32.le_iff_toNat_le.mp hle)]
  · next hle =>
    have hlt := Nat.lt_of_not_le (mt UInt32.le_iff_toNat_le.mpr hle)
    rw [Nat.min_eq_right (h100 ▸ Nat.le_of_lt hlt), h100]

/-- No word on the way to the rounded share overflows: each has the value of the plain numbers. -/
structure ExactWords (count : ℕ) (percent : UInt32) : Prop where
  number : (UInt64.ofNat count).toNat = count
  share : (min percent 100).toUInt64.toNat = min percent.toNat 100
  product : (.ofNat count * (min percent 100).toUInt64 : UInt64).toNat = count * min percent.toNat 100
  doubled : (.ofNat count * (min percent 100).toUInt64 * 2 : UInt64).toNat = count * min percent.toNat 100 * 2
  raised : (.ofNat count * (min percent 100).toUInt64 * 2 + 100 : UInt64).toNat =
    count * min percent.toNat 100 * 2 + 100

theorem exactWords {count : ℕ} (percent : UInt32) (hc : count ≤ 9 * 10 ^ 16) : ExactWords count percent := by
  have hle : count * min percent.toNat 100 ≤ count * 100 := Nat.mul_le_mul_left count (Nat.min_le_right ..)
  have h2 : (2 : UInt64).toNat = 2 := rfl
  have h100 : (100 : UInt64).toNat = 100 := rfl
  have hproduct : (.ofNat count * (min percent 100).toUInt64 : UInt64).toNat = count * min percent.toNat 100 := by
    rw [UInt64.toNat_mul, toNat_count hc, toNat_share]
    exact Nat.mod_eq_of_lt (by omega)
  have hdoubled : (.ofNat count * (min percent 100).toUInt64 * 2 : UInt64).toNat =
      count * min percent.toNat 100 * 2 := by
    rw [UInt64.toNat_mul, hproduct, h2]
    exact Nat.mod_eq_of_lt (by omega)
  refine ⟨toNat_count hc, toNat_share percent, hproduct, hdoubled, ?_⟩
  rw [UInt64.toNat_add, hdoubled, h100]
  exact Nat.mod_eq_of_lt (by omega)

/-- The rounded share in words of 64 bits is the rounded share of the numbers. -/
theorem toNat_rounded (count : ℕ) (percent : UInt32) (hc : count ≤ 9 * 10 ^ 16) :
    ((.ofNat count * (min percent 100).toUInt64 * 2 + 100) / 200 : UInt64).toNat =
      roundedShare count percent.toNat := by
  have h200 : (200 : UInt64).toNat = 200 := rfl
  rw [UInt64.toNat_div, (exactWords percent hc).raised, h200, roundedShare]

/-- Words that hold the rounded share, raised to one if some clauses and some percent are given. -/
theorem toNat_least {count : ℕ} {percent : UInt32} {rounded : UInt64} (hc : count ≤ 9 * 10 ^ 16)
    (hr : rounded.toNat = roundedShare count percent.toNat) :
    (if rounded = 0 ∧ 0 < UInt64.ofNat count ∧ 0 < (min percent 100).toUInt64 then 1 else rounded).toNat =
      max (if 0 < count ∧ 0 < percent.toNat then 1 else 0) (roundedShare count percent.toNat) := by
  have hzero : rounded = 0 ↔ roundedShare count percent.toNat = 0 := by
    rw [← UInt64.toNat_inj, hr]
    rfl
  have hpos : 0 < UInt64.ofNat count ↔ 0 < count := by
    rw [UInt64.lt_iff_toNat_lt, toNat_count hc]
    rfl
  have hpercent : 0 < (min percent 100).toUInt64 ↔ 0 < percent.toNat := by
    rw [UInt64.lt_iff_toNat_lt, toNat_share percent]
    change 0 < min percent.toNat 100 ↔ _
    omega
  simp only [hzero, hpos, hpercent]
  by_cases hz : roundedShare count percent.toNat = 0
  · rw [hz]
    by_cases hk : 0 < count ∧ 0 < percent.toNat
    · rw [if_pos ⟨rfl, hk⟩, if_pos hk]
      rfl
    · rw [if_neg (fun h => hk h.2), if_neg hk, hr, hz]
      rfl
  · rw [if_neg (fun h => hz h.1), hr]
    split <;> omega

theorem toNat_capped (least : UInt64) :
    (if least.toNat < UInt32.size then least.toUInt32 else UInt32.ofNat (UInt32.size - 1)).toNat =
      min (2 ^ 32 - 1) least.toNat := by
  have hsize : UInt32.size = 2 ^ 32 := rfl
  by_cases hfit : least.toNat < UInt32.size
  · rw [if_pos hfit, UInt64.toNat_toUInt32, Nat.mod_eq_of_lt (hsize ▸ hfit)]
    omega
  · have htop : (UInt32.ofNat (UInt32.size - 1)).toNat = 2 ^ 32 - 1 := rfl
    rw [if_neg hfit, htop]
    omega

/-! ## The minimum -/

theorem toNat_minimumShouldMatch (count : ℕ) (percent : UInt32) (hc : count ≤ 9 * 10 ^ 16) :
    (minimumShouldMatch (.ofNat count) percent).toNat =
      min (2 ^ 32 - 1)
        (max (if 0 < count ∧ 0 < percent.toNat then 1 else 0) (roundedShare count percent.toNat)) := by
  rw [← toNat_least hc (toNat_rounded count percent hc)]
  exact toNat_capped _

theorem minimumShouldMatch_le {count : ℕ} (percent : UInt32) (hc : count ≤ 9 * 10 ^ 16) :
    (minimumShouldMatch (.ofNat count) percent).toNat ≤ count := by
  have hle := roundedShare_le count percent.toNat
  rw [toNat_minimumShouldMatch count percent hc]
  split <;> omega

theorem minimumShouldMatch_pos {count : ℕ} {percent : UInt32} (hc : count ≤ 9 * 10 ^ 16) (hpos : 0 < count)
    (hp : 0 < percent) : 1 ≤ (minimumShouldMatch (.ofNat count) percent).toNat := by
  have hp' : 0 < percent.toNat := UInt32.lt_iff_toNat_lt.mp hp
  rw [toNat_minimumShouldMatch count percent hc, if_pos ⟨hpos, hp'⟩]
  omega

theorem minimumShouldMatch_eq_zero_iff {count : ℕ} (percent : UInt32) (hc : count ≤ 9 * 10 ^ 16) :
    minimumShouldMatch (.ofNat count) percent = 0 ↔ count = 0 ∨ percent = 0 := by
  constructor
  · intro hzero
    by_contra hsome
    obtain ⟨hcount, hpercent⟩ := not_or.mp hsome
    have hpos := minimumShouldMatch_pos hc (Nat.pos_of_ne_zero hcount) (UInt32.pos_iff_ne_zero.mpr hpercent)
    rw [hzero] at hpos
    exact Nat.lt_irrefl 0 hpos
  · intro hnone
    rw [← UInt32.toNat_inj]
    rcases hnone with rfl | rfl
    · exact Nat.le_zero.mp (minimumShouldMatch_le percent hc)
    · rw [toNat_minimumShouldMatch count 0 hc]
      simp [roundedShare]

theorem minimumShouldMatch_whole {count : ℕ} {percent : UInt32} (hc : count ≤ 9 * 10 ^ 16) (hp : 100 ≤ percent) :
    (minimumShouldMatch (.ofNat count) percent).toNat = min count (2 ^ 32 - 1) := by
  have hp' : 100 ≤ percent.toNat := UInt32.le_iff_toNat_le.mp hp
  rw [toNat_minimumShouldMatch count percent hc, roundedShare_whole count hp']
  split <;> omega

theorem minimumShouldMatch_mono {count count' : ℕ} {percent percent' : UInt32} (hc : count ≤ count')
    (hc' : count' ≤ 9 * 10 ^ 16) (hp : percent ≤ percent') :
    minimumShouldMatch (.ofNat count) percent ≤ minimumShouldMatch (.ofNat count') percent' := by
  have hp' : percent.toNat ≤ percent'.toNat := UInt32.le_iff_toNat_le.mp hp
  have hshare := roundedShare_mono hc hp'
  rw [UInt32.le_iff_toNat_le, toNat_minimumShouldMatch count percent (by omega),
    toNat_minimumShouldMatch count' percent' hc']
  split <;> split <;> omega

/-- The minimum is the nearest number of clauses, at least one of some and at most what 32 bits hold. It is never
more than all clauses, none only of no clauses or no percent, and all of them from one hundred percent on. -/
theorem minimumShouldMatch_rounded {count : ℕ} (percent : UInt32) (hc : count ≤ 9 * 10 ^ 16) :
    ExactWords count percent ∧
    ((minimumShouldMatch (.ofNat count) percent).toNat : ℤ) =
      min (2 ^ 32 - 1) (max (if 0 < count ∧ 0 < min percent.toNat 100 then 1 else 0)
        (round ((count * min percent.toNat 100 : ℕ) / 100 : ℚ))) ∧
    (minimumShouldMatch (.ofNat count) percent).toNat ≤ count ∧
    (minimumShouldMatch (.ofNat count) percent = 0 ↔ count = 0 ∨ percent = 0) ∧
    (100 ≤ percent → (minimumShouldMatch (.ofNat count) percent).toNat = min count (2 ^ 32 - 1)) ∧
    ∀ count' percent', count' ≤ count → percent' ≤ percent →
      minimumShouldMatch (.ofNat count') percent' ≤ minimumShouldMatch (.ofNat count) percent := by
  refine ⟨exactWords percent hc, ?_, minimumShouldMatch_le percent hc, minimumShouldMatch_eq_zero_iff percent hc,
    minimumShouldMatch_whole hc, fun count' percent' hcount hpercent => minimumShouldMatch_mono hcount hc hpercent⟩
  have hpos : 0 < min percent.toNat 100 ↔ 0 < percent.toNat := by omega
  rw [round_share, toNat_minimumShouldMatch count percent hc]
  simp only [hpos]
  push_cast
  split <;> rfl

/-- Two and a half of five clauses are three, and the greatest number of clauses is more than 32 bits hold. -/
theorem minimumShouldMatch_rounded_half :
    5 ≤ 9 * 10 ^ 16 ∧ minimumShouldMatch (.ofNat 5) 50 = 3 ∧ round ((5 * 50 : ℕ) / 100 : ℚ) = 3 ∧
    minimumShouldMatch (.ofNat 5) 0 = 0 ∧
    (minimumShouldMatch (.ofNat (9 * 10 ^ 16)) 250).toNat = min (9 * 10 ^ 16) (2 ^ 32 - 1) ∧
    minimumShouldMatch (.ofNat 5) 50 ≤ minimumShouldMatch (.ofNat (9 * 10 ^ 16)) 250 := by
  have hfive : minimumShouldMatch (.ofNat 5) 50 = 3 := by decide
  have hround : (3 : ℤ) = min (2 ^ 32 - 1) (max 1 (round ((5 * 50 : ℕ) / 100 : ℚ))) :=
    (minimumShouldMatch_rounded 50 (by decide : 5 ≤ 9 * 10 ^ 16)).2.1
  obtain ⟨-, -, -, hzero, -⟩ := minimumShouldMatch_rounded 0 (by decide : 5 ≤ 9 * 10 ^ 16)
  obtain ⟨-, -, -, -, hwhole, hmono⟩ := minimumShouldMatch_rounded 250 (Nat.le_refl (9 * 10 ^ 16))
  exact ⟨by decide, hfive, by omega, hzero.mpr (.inr rfl), hwhole (by decide), hmono 5 50 (by decide) (by decide)⟩

end Proximity
