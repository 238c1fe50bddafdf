import Mathlib
import Proximity.Request.Percent

/-! Which texts are percentages, and why the others are refused.

* `PercentBody`: what stands in a text around the percent sign and the blanks.
* `Writes`: the numerals, with or without a plus sign, and their values.
* `parse_percent`: a text is read exactly if a numeral up to one hundred stands in it. -/
namespace Proximity
set_option autoImplicit false

/-- The part of a percentage that has to be a numeral: what stands between the blanks, without one percent sign at its
end, and without the blanks that are then at its end. -/
inductive PercentBody (raw : List Char) : List Char → Prop
  | signed {body : List Char} (h : Text.trim raw = body ++ ['%']) : PercentBody raw (Text.trim body)
  | unsigned (h : ∀ body, Text.trim raw ≠ body ++ ['%']) : PercentBody raw (Text.trim (Text.trim raw))

/-- A numeral and its value: decimal digits, behind a plus sign or not. -/
def Writes (numeral : List Char) (value : ℕ) : Prop :=
  ∃ digits, (numeral = digits ∨ numeral = '+' :: digits) ∧ digits ≠ [] ∧ (∀ d ∈ digits, d.isDigit = true) ∧
    Nat.ofDigitChars 10 digits 0 = value

/-! ## Sign and blanks -/

theorem withoutPercentSign_concat (cs : List Char) : withoutPercentSign (cs ++ ['%']) = cs := by
  rw [withoutPercentSign, List.getLast?_concat, if_pos rfl, List.dropLast_concat]

theorem withoutPercentSign_of_ne {cs : List Char} (h : ∀ body, cs ≠ body ++ ['%']) : withoutPercentSign cs = cs := by
  rw [withoutPercentSign, if_neg]
  intro hlast
  obtain ⟨body, hbody⟩ := List.getLast?_eq_some_iff.mp hlast
  exact h body hbody

theorem percentBody_iff {raw d : List Char} :
    PercentBody raw d ↔ d = Text.trim (withoutPercentSign (Text.trim raw)) := by
  constructor
  · rintro (h | h)
    · rw [h, withoutPercentSign_concat]
    · rw [withoutPercentSign_of_ne h]
  · rintro rfl
    by_cases h : ∃ body, Text.trim raw = body ++ ['%']
    · obtain ⟨body, hbody⟩ := h
      rw [hbody, withoutPercentSign_concat]
      exact .signed hbody
    · have hnone : ∀ body, Text.trim raw ≠ body ++ ['%'] := fun body hbody => h ⟨body, hbody⟩
      rw [withoutPercentSign_of_ne hnone]
      exact .unsigned hnone

/-! ## Numerals -/

theorem not_digits_plus (ds : List Char) : ¬ ∀ c ∈ '+' :: ds, c.isDigit = true := fun h =>
  absurd (h '+' (List.mem_cons_self ..)) (by decide)

theorem toNat_ofNat_percent {v : ℕ} (hv : v ≤ 100) : (UInt32.ofNat v).toNat = v :=
  UInt32.toNat_ofNat_of_lt' (lt_of_le_of_lt hv (by decide))

theorem Writes.unique {d : List Char} {v v' : ℕ} (h : Writes d v) (h' : Writes d v') : v = v' := by
  obtain ⟨ds, rfl | rfl, -, hdigits, rfl⟩ := h
  · obtain ⟨ds', rfl | rfl, -, -, rfl⟩ := h'
    · rfl
    · exact absurd hdigits (not_digits_plus ds')
  · obtain ⟨ds', rfl | hds, -, hdigits', rfl⟩ := h'
    · exact absurd hdigits' (not_digits_plus ds)
    · rw [(List.cons.inj hds).2]

section
variable {raw : String} {d : List Char} (h : PercentBody raw.toList d)
include h

theorem body_eq_digits : d = percentDigits raw ∨ d = '+' :: percentDigits raw := by
  rw [percentDigits, ← percentBody_iff.mp h]
  split
  · exact .inr rfl
  · exact .inl rfl

theorem digits_of_writes {ds : List Char} (hd : d = ds ∨ d = '+' :: ds) (hdigits : ∀ c ∈ ds, c.isDigit = true) :
    percentDigits raw = ds := by
  rw [percentDigits, ← percentBody_iff.mp h]
  rcases hd with rfl | rfl
  · split
    · next ds => exact absurd hdigits (not_digits_plus ds)
    · rfl
  · rfl

theorem writes_iff (v : ℕ) :
    Writes d v ↔ percentDigits raw ≠ [] ∧ (∀ c ∈ percentDigits raw, c.isDigit = true) ∧
      Nat.ofDigitChars 10 (percentDigits raw) 0 = v := by
  constructor
  · rintro ⟨ds, hd, hne, hdigits, hvalue⟩
    rw [digits_of_writes h hd hdigits]
    exact ⟨hne, hdigits, hvalue⟩
  · exact fun hwrites => ⟨percentDigits raw, body_eq_digits h, hwrites⟩

/-! ## Reading a percentage -/

theorem parsePercent_of_writes {v : ℕ} (hw : Writes d v) :
    parsePercent (some raw) =
      if 2 ^ 32 ≤ v then .error (.malformedAt .invalidMinimum raw)
      else if 100 < v then .error (.malformedAt .minimumOutOfRange raw)
      else .ok (UInt32.ofNat v) := by
  obtain ⟨hne, hdigits, rfl⟩ := (writes_iff h v).mp hw
  have hempty : (percentDigits raw).isEmpty = false := List.isEmpty_eq_false_iff.mpr hne
  have hall : (percentDigits raw).all Char.isDigit = true := List.all_eq_true.mpr hdigits
  rw [parsePercent]
  simp only [hempty, hall, Bool.not_true, Bool.false_or, decide_eq_true_eq, UInt32.size]
  rfl

theorem parsePercent_of_not_writes (hno : ∀ v, ¬ Writes d v) :
    parsePercent (some raw) = .error (.malformedAt .invalidMinimum raw) := by
  have hform : ((percentDigits raw).isEmpty || !(percentDigits raw).all Char.isDigit) = true := by
    by_contra hform
    obtain ⟨hempty, hall⟩ : (percentDigits raw).isEmpty = false ∧ (percentDigits raw).all Char.isDigit = true := by
      simpa using hform
    exact hno _ ((writes_iff h _).mpr ⟨List.isEmpty_eq_false_iff.mp hempty, List.all_eq_true.mp hall, rfl⟩)
  rw [parsePercent]
  simp only [hform, Bool.true_or, if_true]

theorem parsePercent_cases :
    (∃ v, Writes d v ∧ v ≤ 100 ∧ parsePercent (some raw) = .ok (UInt32.ofNat v)) ∨
    (∃ v, Writes d v ∧ 100 < v ∧ v < 2 ^ 32 ∧
      parsePercent (some raw) = .error (.malformedAt .minimumOutOfRange raw)) ∨
    ((∀ v, Writes d v → 2 ^ 32 ≤ v) ∧ parsePercent (some raw) = .error (.malformedAt .invalidMinimum raw)) := by
  by_cases hw : ∃ v, Writes d v
  · obtain ⟨v, hw⟩ := hw
    have hparse := parsePercent_of_writes h hw
    rcases Nat.lt_or_ge v (2 ^ 32) with hlt | hge
    · rw [if_neg (Nat.not_le.mpr hlt)] at hparse
      rcases Nat.lt_or_ge 100 v with hlarge | hsmall
      · rw [if_pos hlarge] at hparse
        exact .inr (.inl ⟨v, hw, hlarge, hlt, hparse⟩)
      · rw [if_neg (Nat.not_lt.mpr hsmall)] at hparse
        exact .inl ⟨v, hw, hsmall, hparse⟩
    · rw [if_pos hge] at hparse
      exact .inr (.inr ⟨fun v' hw' => hw.unique hw' ▸ hge, hparse⟩)
  · have hno : ∀ v, ¬ Writes d v := fun v hv => hw ⟨v, hv⟩
    exact .inr (.inr ⟨fun v hv => absurd hv (hno v), parsePercent_of_not_writes h hno⟩)

theorem parsePercent_eq_ok_iff (p : UInt32) :
    parsePercent (some raw) = .ok p ↔ Writes d p.toNat ∧ p.toNat ≤ 100 := by
  rcases parsePercent_cases h with ⟨v, hw, hv, hparse⟩ | ⟨v, hw, hv, -, hparse⟩ | ⟨hlarge, hparse⟩
  · rw [hparse]
    constructor
    · rintro ⟨⟩
      rw [toNat_ofNat_percent hv]
      exact ⟨hw, hv⟩
    · rintro ⟨hp, -⟩
      rw [hw.unique hp, UInt32.ofNat_toNat]
  · rw [hparse]
    refine iff_of_false nofun fun hp => ?_
    have heq : v = p.toNat := hw.unique hp.1
    omega
  · rw [hparse]
    refine iff_of_false nofun fun hp => ?_
    have hge := hlarge p.toNat hp.1
    omega

theorem exists_parsePercent_iff : (∃ p, parsePercent (some raw) = .ok p) ↔ ∃ v, Writes d v ∧ v ≤ 100 := by
  constructor
  · rintro ⟨p, hp⟩
    exact ⟨p.toNat, (parsePercent_eq_ok_iff h p).mp hp⟩
  · rintro ⟨v, hread⟩
    rw [← toNat_ofNat_percent hread.2] at hread
    exact ⟨UInt32.ofNat v, (parsePercent_eq_ok_iff h _).mpr hread⟩

theorem parsePercent_eq_error_iff (e : Refusal) :
    parsePercent (some raw) = .error e ↔
      (∃ v, Writes d v ∧ 100 < v ∧ v ≤ 2 ^ 32 - 1) ∧ e = .malformedAt .minimumOutOfRange raw ∨
        (¬ ∃ v, Writes d v ∧ v ≤ 2 ^ 32 - 1) ∧ e = .malformedAt .invalidMinimum raw := by
  rcases parsePercent_cases h with ⟨v, hw, hv, hparse⟩ | ⟨v, hw, hv, hlt, hparse⟩ | ⟨hlarge, hparse⟩
  · rw [hparse]
    refine iff_of_false nofun ?_
    rintro (⟨⟨v', hw', hv', -⟩, -⟩ | ⟨hno, -⟩)
    · have heq : v = v' := hw.unique hw'
      omega
    · exact hno ⟨v, hw, by omega⟩
  · have hwide : ∃ v, Writes d v ∧ v ≤ 2 ^ 32 - 1 := ⟨v, hw, by omega⟩
    have hrange : ∃ v, Writes d v ∧ 100 < v ∧ v ≤ 2 ^ 32 - 1 := ⟨v, hw, hv, by omega⟩
    rw [hparse]
    simp only [hrange, hwide, true_and, not_true_eq_false, false_and, or_false]
    exact ⟨fun he => (Except.error.inj he).symm, fun he => he ▸ rfl⟩
  · have hno : ¬ ∃ v, Writes d v ∧ v ≤ 2 ^ 32 - 1 := by
      rintro ⟨v, hw, hv⟩
      have hge := hlarge v hw
      omega
    have hrange : ¬ ∃ v, Writes d v ∧ 100 < v ∧ v ≤ 2 ^ 32 - 1 := fun ⟨v, hw, _, hv⟩ => hno ⟨v, hw, hv⟩
    rw [hparse]
    simp only [hrange, hno, false_and, false_or, not_false_eq_true, true_and]
    exact ⟨fun he => (Except.error.inj he).symm, fun he => he ▸ rfl⟩

end

/-- Where no percentage is given it is one hundred. In every other text one part has to be a numeral: the text is read
exactly if it is one and its value is at most one hundred, and then as that value. A greater value that fits into 32
bits is out of range, everything else is malformed, each with the whole text as the fragment. -/
theorem parse_percent :
    parsePercent none = .ok 100 ∧
    (∀ raw : String, ∃! d, PercentBody raw.toList d) ∧
    (∀ (raw : String) (d : List Char), PercentBody raw.toList d →
      ((∃ p, parsePercent (some raw) = .ok p) ↔ ∃ v, Writes d v ∧ v ≤ 100) ∧
      (∀ p, parsePercent (some raw) = .ok p ↔ Writes d p.toNat ∧ p.toNat ≤ 100) ∧
      ∀ e, parsePercent (some raw) = .error e ↔
        (∃ v, Writes d v ∧ 100 < v ∧ v ≤ 2 ^ 32 - 1) ∧ e = .malformedAt .minimumOutOfRange raw ∨
          (¬ ∃ v, Writes d v ∧ v ≤ 2 ^ 32 - 1) ∧ e = .malformedAt .invalidMinimum raw) ∧
    Mistake.minimumOutOfRange.message = "mm must be between 0 and 100" ∧
    Mistake.invalidMinimum.message = "invalid mm format" := by
  refine ⟨rfl, fun raw => ⟨_, percentBody_iff.mpr rfl, fun d hd => percentBody_iff.mp hd⟩, ?_, rfl, rfl⟩
  intro raw d h
  exact ⟨exists_parsePercent_iff h, parsePercent_eq_ok_iff h, parsePercent_eq_error_iff h⟩

/-- Blanks on both sides of the sign, a plus sign and zeros, a value above one hundred, and one that leaves 32 bits. -/
theorem parse_percent_zeros :
    (PercentBody " +0075 %\n".toList "+0075".toList ∧ parsePercent (some " +0075 %\n") = .ok 75) ∧
    (PercentBody "101%".toList "101".toList ∧
      parsePercent (some "101%") = .error (.malformedAt .minimumOutOfRange "101%")) ∧
    PercentBody "4294967296".toList "4294967296".toList ∧
      parsePercent (some "4294967296") = .error (.malformedAt .invalidMinimum "4294967296") := by
  obtain ⟨-, -, hread, -⟩ := parse_percent
  have hbody : PercentBody " +0075 %\n".toList "+0075".toList := percentBody_iff.mpr rfl
  have hlarge : PercentBody "101%".toList "101".toList := percentBody_iff.mpr rfl
  have hwide : PercentBody "4294967296".toList "4294967296".toList := percentBody_iff.mpr rfl
  have hvalue : Writes "+0075".toList 75 :=
    ⟨"0075".toList, .inr rfl, by decide, List.all_eq_true.mp rfl, by decide⟩
  have hvalue' : Writes "101".toList 101 := ⟨"101".toList, .inl rfl, by decide, List.all_eq_true.mp rfl, by decide⟩
  have hwritten : Writes "4294967296".toList 4294967296 :=
    ⟨"4294967296".toList, .inl rfl, by decide, List.all_eq_true.mp rfl, by decide⟩
  refine ⟨⟨hbody, ?_⟩, ⟨hlarge, ?_⟩, hwide, ?_⟩
  · exact ((hread _ _ hbody).2.1 75).mpr ⟨hvalue, by decide⟩
  · exact ((hread _ _ hlarge).2.2 _).mpr (.inl ⟨⟨101, hvalue', by decide⟩, rfl⟩)
  · refine ((hread _ _ hwide).2.2 _).mpr (.inr ⟨?_, rfl⟩)
    rintro ⟨v, hw, hv⟩
    have heq : v = 4294967296 := hw.unique hwritten
    omega

end Proximity
