import Mathlib
import Proximity.Text.Utf8

/-! Characters of text from octets. A character of one octet other than NUL is read only where its octet stands: what
is put together from several octets lies beyond those characters, and so does the replacement for wrong octets. -/
namespace Proximity.Text
set_option autoImplicit false

/-- A character under way whose bits, once complete, lie beyond the characters of one octet. -/
def Pending.Beyond (p : Pending) : Prop :=
  2 ≤ p.bits ∨ (p.owed ≠ 1 ∧ 130 ≤ p.bits * 64 + p.low.toNat)

/-- What the first octet of a character can say: the character of the octet, that it is wrong, or what is owed. -/
theorem leadOctet_cases (octet : UInt8) :
    (octet.toNat < 128 ∧ leadOctet octet = .inl (Char.ofNat octet.toNat)) ∨ leadOctet octet = .inl replacement ∨
      ∃ p : Pending, p.Beyond ∧ leadOctet octet = .inr p := by
  unfold leadOctet
  split
  · next hone => exact .inl ⟨UInt8.lt_iff_toNat_lt.mp hone, rfl⟩
  split
  · next htwo =>
    have hlow : 0xC2 ≤ octet.toNat := UInt8.le_iff_toNat_le.mp htwo.1
    refine .inr (.inr ⟨_, .inl ?_, rfl⟩)
    change 2 ≤ octet.toNat - 0xC0
    omega
  split
  · exact .inr (.inr ⟨_, .inr ⟨by decide, by decide⟩, rfl⟩)
  split
  · exact .inr (.inr ⟨_, .inl (by decide), rfl⟩)
  split
  · next hthree =>
    have hlow : 0xE1 ≤ octet.toNat := UInt8.le_iff_toNat_le.mp hthree.1
    refine .inr (.inr ⟨_, .inr ⟨show 2 ≠ 1 by decide, ?_⟩, rfl⟩)
    change 130 ≤ (octet.toNat - 0xE0) * 64 + 128
    omega
  split
  · exact .inr (.inr ⟨_, .inr ⟨by decide, by decide⟩, rfl⟩)
  split
  · next hfour =>
    have hlow : 0xF1 ≤ octet.toNat := UInt8.le_iff_toNat_le.mp hfour.1
    refine .inr (.inr ⟨_, .inr ⟨show 3 ≠ 1 by decide, ?_⟩, rfl⟩)
    change 130 ≤ (octet.toNat - 0xF0) * 64 + 128
    omega
  split
  · exact .inr (.inr ⟨_, .inl (by decide), rfl⟩)
  · exact .inr (.inl rfl)

/-- What a further octet can make of a character under way. -/
theorem Pending.Beyond.next_cases {p : Pending} (hp : p.Beyond) (octet : UInt8) :
    p.next octet = none ∨ (∃ bits, 128 ≤ bits ∧ p.next octet = some (.inl (Char.ofNat bits))) ∨
      ∃ q : Pending, q.Beyond ∧ p.next octet = some (.inr q) := by
  unfold Pending.next
  split_ifs with hbounds howed
  · have hbits : 2 ≤ p.bits := hp.resolve_right fun h => h.1 howed
    refine .inr (.inl ⟨_, ?_, rfl⟩)
    omega
  · have hlow := UInt8.le_iff_toNat_le.mp hbounds.1
    refine .inr (.inr ⟨_, .inl ?_, rfl⟩)
    change 2 ≤ p.bits * 64 + (octet.toNat - 0x80)
    rcases hp with hbits | ⟨-, hlead⟩ <;> omega
  · exact .inl rfl

/-! ## Steps -/

section
variable {octet : UInt8} {c : Char} {p q : Pending}

theorem decodeAfter_single (h : leadOctet octet = .inl c) (bs : List UInt8) :
    decodeAfter none (octet :: bs) = c :: decodeAfter none bs := by
  rw [decodeAfter, h]

theorem decodeAfter_begun (h : leadOctet octet = .inr p) (bs : List UInt8) :
    decodeAfter none (octet :: bs) = decodeAfter (some p) bs := by
  rw [decodeAfter, h]

theorem decodeAfter_complete (h : p.next octet = some (.inl c)) (bs : List UInt8) :
    decodeAfter (some p) (octet :: bs) = c :: decodeAfter none bs := by
  rw [decodeAfter, h]

theorem decodeAfter_continued (h : p.next octet = some (.inr q)) (bs : List UInt8) :
    decodeAfter (some p) (octet :: bs) = decodeAfter (some q) bs := by
  rw [decodeAfter, h]

/-- An octet that does not continue the character under way is read as a first one. -/
theorem decodeAfter_wrong (h : p.next octet = none) (bs : List UInt8) :
    decodeAfter (some p) (octet :: bs) = replacement :: decodeAfter none (octet :: bs) := by
  cases hlead : leadOctet octet with
  | inl c => rw [decodeAfter_single hlead, decodeAfter, h, hlead]
  | inr q => rw [decodeAfter_begun hlead, decodeAfter, h, hlead]

end

/-! ## Characters of one octet -/

/-- An octet that is a character of its own, other than NUL. -/
def IsAscii (b : UInt8) : Prop := 0 < b.toNat ∧ b.toNat < 128

section
variable {b : UInt8}

theorem IsAscii.toNat_ofNat (h : IsAscii b) : (Char.ofNat b.toNat).toNat = b.toNat := by
  rw [Char.toNat_ofNat, if_pos (.inl (h.2.trans (by decide)))]

theorem IsAscii.eq_of_ofNat (h : IsAscii b) {n : ℕ} (heq : Char.ofNat b.toNat = Char.ofNat n) : n = b.toNat := by
  have hcode := congrArg Char.toNat heq
  have hpos := h.1
  rw [h.toNat_ofNat, Char.toNat_ofNat] at hcode
  split at hcode <;> omega

theorem IsAscii.ne_replacement (h : IsAscii b) : Char.ofNat b.toNat ≠ replacement := by
  intro heq
  have hcode : b.toNat = replacement.toNat := h.toNat_ofNat.symm.trans (congrArg Char.toNat heq)
  exact absurd (hcode ▸ h.2) (by decide)

/-- An ASCII character is read from its octet, whether or not a character is under way. -/
theorem mem_of_mem_decodeAfter (h : IsAscii b) (bs : List UInt8) :
    (Char.ofNat b.toNat ∈ decodeAfter none bs → b ∈ bs) ∧
      ∀ p : Pending, p.Beyond → Char.ofNat b.toNat ∈ decodeAfter (some p) bs → b ∈ bs := by
  induction bs with
  | nil =>
    refine ⟨fun hmem => absurd hmem List.not_mem_nil, fun p _ hmem => ?_⟩
    exact absurd (List.mem_singleton.mp hmem) h.ne_replacement
  | cons octet bs ih =>
    have hlead : Char.ofNat b.toNat ∈ decodeAfter none (octet :: bs) → b ∈ octet :: bs := by
      intro hmem
      rcases leadOctet_cases octet with ⟨-, heq⟩ | heq | ⟨q, hq, heq⟩
      · rw [decodeAfter_single heq] at hmem
        rcases List.mem_cons.mp hmem with hc | hrest
        · rw [UInt8.toNat_inj.mp (h.eq_of_ofNat hc)]
          exact List.mem_cons_self ..
        · exact List.mem_cons_of_mem octet (ih.1 hrest)
      · rw [decodeAfter_single heq] at hmem
        exact List.mem_cons_of_mem octet (ih.1 (List.mem_of_ne_of_mem h.ne_replacement hmem))
      · rw [decodeAfter_begun heq] at hmem
        exact List.mem_cons_of_mem octet (ih.2 q hq hmem)
    refine ⟨hlead, fun p hp hmem => ?_⟩
    rcases hp.next_cases octet with heq | ⟨bits, hbits, heq⟩ | ⟨q, hq, heq⟩
    · rw [decodeAfter_wrong heq] at hmem
      exact hlead (List.mem_of_ne_of_mem h.ne_replacement hmem)
    · rw [decodeAfter_complete heq] at hmem
      rcases List.mem_cons.mp hmem with hc | hrest
      · have hsmall := h.2
        rw [← h.eq_of_ofNat hc] at hsmall
        omega
      · exact List.mem_cons_of_mem octet (ih.1 hrest)
    · rw [decodeAfter_continued heq] at hmem
      exact List.mem_cons_of_mem octet (ih.2 q hq hmem)

theorem mem_of_mem_decodeLossy (h : IsAscii b) {bs : List UInt8}
    (hmem : Char.ofNat b.toNat ∈ (decodeLossy bs).toList) : b ∈ bs := by
  rw [decodeLossy, String.toList_ofList] at hmem
  exact (mem_of_mem_decodeAfter h bs).1 hmem

end

end Proximity.Text
