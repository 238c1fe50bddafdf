import Proximity.Text.Blank
import Proximity.Text.Lowercase
import Proximity.Text.Uppercase
import Proximity.Proofs.Text.CodePoints

/-! Lower case of characters and of texts. A character that has a small letter is a capital or a titlecase letter,
and no small letter has another small letter.

* `capital_or_titlecase`: what lower case changes is a capital or a titlecase letter.
* `lowercase_eq_self_iff`: lower case leaves a text as it is exactly if it leaves each of its characters.
* `lowercase_lowercase`: lower case of lower case is the same text.
* `utf8Len_lowercase`: the octets of a lower case text are those of the small letters of its characters. -/
namespace Proximity.Text
set_option autoImplicit false

/-- Code points of the general category titlecase letter, as runs `(first, last, step)` in ascending order. -/
def titlecase : List (ℕ × ℕ × ℕ) :=
  [(0x1C5, 0x1C5, 1), (0x1C8, 0x1C8, 1), (0x1CB, 0x1CB, 1), (0x1F2, 0x1F2, 1), (0x1F88, 0x1F8F, 1),
   (0x1F98, 0x1F9F, 1), (0x1FA8, 0x1FAF, 1), (0x1FBC, 0x1FBC, 1), (0x1FCC, 0x1FCC, 1), (0x1FFC, 0x1FFC, 1)]

/-- Whether a character is a titlecase letter. -/
def isTitlecase (c : Char) : Bool := inRuns titlecase c.toNat

/-! ## Small letters by runs -/

/-- The code points that an entry of the table of small letters changes. -/
def sources (r : ℕ × ℕ × ℕ × ℕ) : ℕ × ℕ × ℕ := (r.1, r.2.1, r.2.2.1)

/-- What an entry of the table of small letters changes a code point to. -/
def image (r : ℕ × ℕ × ℕ × ℕ) (n : ℕ) : ℕ := r.2.2.2 + (n - r.1)

/-- The range that holds the code points that an entry changes. -/
def sourceRange (r : ℕ × ℕ × ℕ × ℕ) : ℕ × ℕ := (r.1, r.2.1)

/-- The range that holds the code points that an entry writes. -/
def imageRange (r : ℕ × ℕ × ℕ × ℕ) : ℕ × ℕ := (r.2.2.2, image r r.2.1)

theorem image_mem_imageRange {r : ℕ × ℕ × ℕ × ℕ} {n : ℕ} (hn : InRun (sources r) n) :
    (imageRange r).1 ≤ image r n ∧ image r n ≤ (imageRange r).2 :=
  ⟨Nat.le_add_right .., Nat.add_le_add_left (Nat.sub_le_sub_right hn.high _) _⟩

theorem imageIn_cases (runs : List (ℕ × ℕ × ℕ × ℕ)) (n : ℕ) :
    imageIn runs n = n ∨ ∃ r ∈ runs, InRun (sources r) n ∧ imageIn runs n = image r n := by
  induction runs with
  | nil => exact .inl rfl
  | cons r rest ih =>
    rw [imageIn]
    split
    · exact .inl rfl
    · next hlow =>
      split
      · next hin => exact .inr ⟨r, List.mem_cons_self .., ⟨Nat.not_lt.mp hlow, hin.1, hin.2⟩, rfl⟩
      · rcases ih with heq | ⟨r', hr', hin, heq⟩
        · exact .inl heq
        · exact .inr ⟨r', List.mem_cons_of_mem r hr', hin, heq⟩

/-! ## What the tables say

Each entry is checked at its ends: no code point is looked up. -/

theorem ascending_runs : (lowercaseRuns.map Prod.fst).IsChain (· ≤ ·) ∧ (uppercase.map Prod.fst).IsChain (· ≤ ·) ∧
    (titlecase.map Prod.fst).IsChain (· ≤ ·) := by
  decide +kernel

/-- Whether a run holds `first`, `first + step` and so on up to `last`. -/
def holdsRun (first last step : ℕ) (u : ℕ × ℕ × ℕ) : Bool :=
  Nat.ble last u.2.1 && Nat.ble u.1 first && Nat.beq ((first - u.1) % u.2.2) 0 &&
    (Nat.beq (step % u.2.2) 0 || Nat.ble last first)

theorem inRun_of_holdsRun {first last step n : ℕ} {u : ℕ × ℕ × ℕ} (h : holdsRun first last step u = true)
    (hn : InRun (first, last, step) n) : InRun u n := by
  obtain ⟨hlow, hhigh, hstep⟩ := hn
  simp only [holdsRun, Bool.and_eq_true, Bool.or_eq_true, Nat.ble_eq, Nat.beq_eq] at h
  obtain ⟨⟨⟨hlast, hfirst⟩, hstart⟩, hsteps⟩ := h
  simp only at hlow hhigh hstep
  refine ⟨hfirst.trans hlow, hhigh.trans hlast, ?_⟩
  have hdvd : u.2.2 ∣ n - first := by
    rcases hsteps with hsteps | hsingle
    · exact (Nat.dvd_of_mod_eq_zero hsteps).trans (Nat.dvd_of_mod_eq_zero hstep)
    · have hzero : n - first = 0 := by omega
      rw [hzero]
      exact Nat.dvd_zero _
  have hsplit : n - u.1 = (n - first) + (first - u.1) := by omega
  rw [hsplit]
  exact Nat.mod_eq_zero_of_dvd (Nat.dvd_add hdvd (Nat.dvd_of_mod_eq_zero hstart))

/-- Whether one run of capitals or of titlecase letters holds `first`, `first + step` and so on up to `last`. -/
def isCapitalRun (first last step : ℕ) : Bool :=
  uppercase.any (holdsRun first last step) || titlecase.any (holdsRun first last step)

theorem capital_of_isCapitalRun {first last step n : ℕ} (h : isCapitalRun first last step = true)
    (hn : InRun (first, last, step) n) : inRuns uppercase n = true ∨ inRuns titlecase n = true := by
  rcases Bool.or_eq_true_iff.mp h with h | h
  · obtain ⟨u, hu, hholds⟩ := List.any_eq_true.mp h
    exact .inl (inRuns_of_mem (List.isChain_iff_pairwise.mp ascending_runs.2.1) hu (inRun_of_holdsRun hholds hn))
  · obtain ⟨u, hu, hholds⟩ := List.any_eq_true.mp h
    exact .inr (inRuns_of_mem (List.isChain_iff_pairwise.mp ascending_runs.2.2) hu (inRun_of_holdsRun hholds hn))

/-- Whether an entry lies in one run of capitals, or its first code point lies in one and the others in the next. -/
def changesCapitals (r : ℕ × ℕ × ℕ × ℕ) : Bool :=
  isCapitalRun r.1 r.2.1 r.2.2.1 || (isCapitalRun r.1 r.1 1 && isCapitalRun (r.1 + r.2.2.1) r.2.1 r.2.2.1)

/-- Whether no run changes one of the code points from `low` to `high`, or of every second one if they are `even`
numbers of steps away from `low`: the runs lie below, then perhaps between those code points, and then above. -/
def unchanged (low high : ℕ) (even : Bool) : List (ℕ × ℕ × ℕ × ℕ) → Bool
  | [] => true
  | r :: rest =>
    bif Nat.blt r.2.1 low then unchanged low high even rest
    else Nat.blt high r.1 ||
      (even && Nat.beq r.2.2.1 2 && Nat.beq ((low + r.1) % 2) 1 && unchanged low high even rest)

theorem not_inRun_of_unchanged {low high : ℕ} {even : Bool} {runs : List (ℕ × ℕ × ℕ × ℕ)}
    (hs : (runs.map Prod.fst).Pairwise (· ≤ ·)) (h : unchanged low high even runs = true) {r : ℕ × ℕ × ℕ × ℕ}
    (hr : r ∈ runs) {n : ℕ} (hlow : low ≤ n) (hhigh : n ≤ high) (heven : even = true → (n - low) % 2 = 0) :
    ¬ InRun (sources r) n := by
  rintro ⟨hfirst, hlast, hstep⟩
  simp only [sources] at hfirst hlast hstep
  induction runs with
  | nil => cases hr
  | cons v rest ih =>
    obtain ⟨hv, hrest⟩ := List.pairwise_cons.mp hs
    have hbehind : v.1 ≤ r.1 := by
      rcases List.mem_cons.mp hr with rfl | hr
      · exact Nat.le_refl _
      · exact hv r.1 (List.mem_map_of_mem hr)
    rw [unchanged, cond_eq_ite] at h
    split at h
    · next hbelow =>
      rw [Nat.blt_eq] at hbelow
      rcases List.mem_cons.mp hr with rfl | hr
      · omega
      · exact ih hrest h hr
    · simp only [Bool.or_eq_true, Bool.and_eq_true, Nat.blt_eq, Nat.beq_eq] at h
      rcases h with habove | ⟨⟨⟨hsecond, hsteps⟩, hodd⟩, hothers⟩
      · omega
      · rcases List.mem_cons.mp hr with rfl | hr
        · rw [hsteps] at hstep
          have hparity := heven hsecond
          omega
        · exact ih hrest hothers hr

/-- Whether no entry changes what an entry writes. -/
def writesUnchanged (r : ℕ × ℕ × ℕ × ℕ) : Bool :=
  unchanged r.2.2.2 (image r r.2.1) (Nat.beq r.2.2.1 2 || Nat.beq r.1 r.2.1) lowercaseRuns

/-- The octets of a code point. -/
def octets (n : ℕ) : ℕ := if n ≤ 0x7F then 1 else if n ≤ 0x7FF then 2 else if n ≤ 0xFFFF then 3 else 4

theorem octets_mono {m n : ℕ} (h : m ≤ n) : octets m ≤ octets n := by
  unfold octets
  split_ifs <;> omega

/-- Whether an entry writes code points, U+0130 not among them, and but for U+023A and U+023E none with more octets
than it changes. -/
def writesValid (r : ℕ × ℕ × ℕ × ℕ) : Bool :=
  (Nat.blt (image r r.2.1) 0xD800 || (Nat.blt 0xDFFF r.2.2.2 && Nat.blt (image r r.2.1) 0x110000)) &&
    (Nat.blt (image r r.2.1) 0x130 || Nat.blt 0x130 r.2.2.2) &&
    (Nat.ble (octets (image r r.2.1)) (octets r.1) ||
      (Nat.beq r.1 r.2.1 && (Nat.beq r.1 0x23A || Nat.beq r.1 0x23E)))

theorem entries_checked :
    lowercaseRuns.all (fun r => changesCapitals r && writesUnchanged r && writesValid r) = true := by
  decide +kernel

theorem entry_checked {r : ℕ × ℕ × ℕ × ℕ} (hr : r ∈ lowercaseRuns) :
    changesCapitals r = true ∧ writesUnchanged r = true ∧ writesValid r = true := by
  have h := List.all_eq_true.mp entries_checked r hr
  rwa [Bool.and_eq_true, Bool.and_eq_true, and_assoc] at h

theorem capital_of_sources {r : ℕ × ℕ × ℕ × ℕ} (hr : r ∈ lowercaseRuns) {n : ℕ} (hn : InRun (sources r) n) :
    inRuns uppercase n = true ∨ inRuns titlecase n = true := by
  have h := (entry_checked hr).1
  rw [changesCapitals, Bool.or_eq_true, Bool.and_eq_true] at h
  rcases h with hone | ⟨hfirst, hothers⟩
  · exact capital_of_isCapitalRun hone hn
  · obtain ⟨hlow, hhigh, hstep⟩ := hn
    simp only [sources] at hlow hhigh hstep
    rcases Nat.eq_or_lt_of_le hlow with rfl | hlt
    · exact capital_of_isCapitalRun hfirst ⟨Nat.le_refl _, Nat.le_refl _, by simp⟩
    · have hle : r.2.2.1 ≤ n - r.1 := Nat.le_of_dvd (by omega) (Nat.dvd_of_mod_eq_zero hstep)
      refine capital_of_isCapitalRun hothers ⟨by omega, hhigh, ?_⟩
      rw [Nat.sub_add_eq]
      exact (Nat.mod_eq_sub_mod hle).symm.trans hstep

theorem not_inRun_image {r r' : ℕ × ℕ × ℕ × ℕ} (hr : r ∈ lowercaseRuns) (hr' : r' ∈ lowercaseRuns) {n : ℕ}
    (hn : InRun (sources r) n) : ¬ InRun (sources r') (image r n) := by
  obtain ⟨hfirst, hlast⟩ := image_mem_imageRange hn
  have hs := List.isChain_iff_pairwise.mp ascending_runs.1
  refine not_inRun_of_unchanged hs (entry_checked hr).2.1 hr' hfirst hlast fun heven => ?_
  obtain ⟨hlow, hhigh, hstep⟩ := hn
  simp only [sources, image, Nat.add_sub_cancel_left] at hlow hhigh hstep ⊢
  rw [Bool.or_eq_true, Nat.beq_eq, Nat.beq_eq] at heven
  rcases heven with hsteps | hsingle
  · rwa [hsteps] at hstep
  · omega

theorem imageIn_imageIn (n : ℕ) :
    imageIn lowercaseRuns (imageIn lowercaseRuns n) = imageIn lowercaseRuns n := by
  rcases imageIn_cases lowercaseRuns n with heq | ⟨r, hr, hin, heq⟩
  · rw [heq, heq]
  · rw [heq]
    rcases imageIn_cases lowercaseRuns (image r n) with hsame | ⟨r', hr', hin', -⟩
    · exact hsame
    · exact absurd hin' (not_inRun_image hr hr' hin)

theorem image_valid {r : ℕ × ℕ × ℕ × ℕ} (hr : r ∈ lowercaseRuns) {n : ℕ} (hn : InRun (sources r) n) :
    (image r n).isValidChar ∧ image r n ≠ 0x130 ∧
      (octets (image r n) ≤ octets n ∨ n = 0x23A ∨ n = 0x23E) := by
  obtain ⟨hfirst, hlast⟩ := image_mem_imageRange hn
  obtain ⟨hlow, hhigh, -⟩ := hn
  simp only [sources, imageRange] at hlow hhigh hfirst hlast
  have h := (entry_checked hr).2.2
  simp only [writesValid, Bool.and_eq_true, Bool.or_eq_true, Nat.blt_eq, Nat.ble_eq, Nat.beq_eq] at h
  obtain ⟨⟨hvalid, hdot⟩, hwidth⟩ := h
  refine ⟨?_, by omega, ?_⟩
  · unfold Nat.isValidChar
    omega
  · rcases hwidth with hle | ⟨hsingle, hgrows⟩
    · exact .inl (((octets_mono hlast).trans hle).trans (octets_mono hlow))
    · exact .inr (by omega)

/-! ## Characters -/

theorem utf8Size_eq_octets (c : Char) : c.utf8Size = octets c.toNat := by
  simp only [Char.utf8Size, octets, UInt32.le_iff_toNat_le]
  rfl

theorem toNat_smallLetter (c : Char) : (smallLetter c).toNat = imageIn lowercaseRuns c.toNat := by
  rcases imageIn_cases lowercaseRuns c.toNat with heq | ⟨r, hr, hin, heq⟩
  · rw [smallLetter, heq, Char.ofNat_toNat]
  · rw [smallLetter, heq, Char.toNat_ofNat, if_pos (image_valid hr hin).1]

theorem smallLetter_smallLetter (c : Char) : smallLetter (smallLetter c) = smallLetter c := by
  rw [← Char.toNat_inj, toNat_smallLetter, toNat_smallLetter, imageIn_imageIn]

theorem capital_or_titlecase {c : Char} (h : smallLetter c ≠ c) : isUppercase c = true ∨ isTitlecase c = true := by
  rcases imageIn_cases lowercaseRuns c.toNat with heq | ⟨r, hr, hin, -⟩
  · exact absurd (Char.toNat_inj.mp ((toNat_smallLetter c).trans heq)) h
  · exact capital_of_sources hr hin

theorem utf8Size_smallLetter (c : Char) :
    (smallLetter c).utf8Size ≤ c.utf8Size ∨ c = '\u023A' ∨ c = '\u023E' := by
  rw [utf8Size_eq_octets, utf8Size_eq_octets, toNat_smallLetter]
  rcases imageIn_cases lowercaseRuns c.toNat with heq | ⟨r, hr, hin, heq⟩
  · rw [heq]
    exact .inl (Nat.le_refl _)
  · rw [heq]
    rcases (image_valid hr hin).2.2 with hle | hA | hT
    · exact .inl hle
    · exact .inr (.inl (Char.toNat_inj.mp hA))
    · exact .inr (.inr (Char.toNat_inj.mp hT))

/-- A character that lower case leaves as it is, wherever it stands. -/
def IsSmall (c : Char) : Prop := c ≠ 'Σ' ∧ lowercaseChar c = [c]

theorem lowercaseChar_of_ne {c : Char} (h : c ≠ '\u0130') : lowercaseChar c = [smallLetter c] := if_neg h

theorem smallLetter_ne_dotted {c : Char} (h : c ≠ '\u0130') : smallLetter c ≠ '\u0130' := by
  rcases imageIn_cases lowercaseRuns c.toNat with heq | ⟨r, hr, hin, heq⟩
  · rwa [Char.toNat_inj.mp ((toNat_smallLetter c).trans heq)]
  · intro hdot
    have hcode := congrArg Char.toNat hdot
    rw [toNat_smallLetter, heq] at hcode
    exact (image_valid hr hin).2.1 hcode

theorem isSmall_smallLetter {c : Char} (h : c ≠ '\u0130') : IsSmall (smallLetter c) := by
  refine ⟨?_, ?_⟩
  · intro hsigma
    have hself := smallLetter_smallLetter c
    rw [hsigma] at hself
    exact absurd hself (by decide)
  · rw [lowercaseChar_of_ne (smallLetter_ne_dotted h), smallLetter_smallLetter]

theorem isSmall_of_mem_lowercaseChar {c d : Char} (h : d ∈ lowercaseChar c) : IsSmall d := by
  by_cases hdot : c = '\u0130'
  · rw [lowercaseChar, if_pos hdot] at h
    rcases List.mem_cons.mp h with rfl | h
    · exact ⟨by decide, by decide⟩
    · obtain rfl := List.mem_singleton.mp h
      exact ⟨by decide, by decide⟩
  · rw [lowercaseChar_of_ne hdot] at h
    obtain rfl := List.mem_singleton.mp h
    exact isSmall_smallLetter hdot

theorem isSmall_of_not_capital {c : Char} (hu : isUppercase c = false) (ht : isTitlecase c = false) :
    IsSmall c := by
  have hsame : smallLetter c = c := by
    by_contra hne
    rcases capital_or_titlecase hne with h | h
    · exact Bool.noConfusion (hu.symm.trans h)
    · exact Bool.noConfusion (ht.symm.trans h)
  have hdot : c ≠ '\u0130' := by
    rintro rfl
    exact absurd hu (by decide)
  refine ⟨?_, by rw [lowercaseChar_of_ne hdot, hsame]⟩
  rintro rfl
  exact absurd hu (by decide)

theorem titlecase_changes :
    ∀ u ∈ titlecase, ∀ i < u.2.1 + 1 - u.1, imageIn lowercaseRuns (u.1 + i) ≠ u.1 + i := by
  decide +kernel

theorem not_isSmall_of_titlecase {c : Char} (h : isTitlecase c = true) : ¬ IsSmall c := by
  rintro ⟨-, hsame⟩
  obtain ⟨u, hu, hlow, hhigh, -⟩ := exists_of_inRuns h
  have hdot : c ≠ '\u0130' := by
    rintro rfl
    exact absurd h (by decide)
  rw [lowercaseChar_of_ne hdot, List.singleton_inj, ← Char.toNat_inj, toNat_smallLetter] at hsame
  have hchanges := titlecase_changes u hu (c.toNat - u.1) (by omega)
  rw [Nat.add_sub_cancel' hlow] at hchanges
  exact hchanges hsame

/-! ## Texts -/

theorem lowercaseAfter_append {a : List Char} (h : ∀ c ∈ a, IsSmall c) (before b : List Char) :
    lowercaseAfter before (a ++ b) = a ++ lowercaseAfter (a.reverse ++ before) b := by
  induction a generalizing before with
  | nil => rfl
  | cons c a ih =>
    obtain ⟨⟨hsigma, hsame⟩, ha⟩ := List.forall_mem_cons.mp h
    rw [List.cons_append, lowercaseAfter, if_neg hsigma, hsame, ih ha, List.reverse_cons, List.append_assoc]
    rfl

theorem lowercase_of_isSmall {cs : List Char} (h : ∀ c ∈ cs, IsSmall c) : lowercase cs = cs := by
  have hall := lowercaseAfter_append h [] []
  rwa [lowercaseAfter, List.append_nil] at hall

theorem lowercaseAfter_ne_nil (before : List Char) {cs : List Char} (h : cs ≠ []) : lowercaseAfter before cs ≠ [] := by
  cases cs with
  | nil => exact absurd rfl h
  | cons c cs =>
    refine List.append_ne_nil_of_left_ne_nil ?_ _
    split
    · exact List.cons_ne_nil _ _
    · unfold lowercaseChar
      split <;> exact List.cons_ne_nil _ _

/-- What stands in a text in lower case comes from one of its characters. -/
theorem exists_of_mem_lowercaseAfter {before cs : List Char} {d : Char} (h : d ∈ lowercaseAfter before cs) :
    ∃ c ∈ cs, d ∈ lowercaseChar c ∨ c = 'Σ' ∧ d = 'ς' := by
  induction cs generalizing before with
  | nil => cases h
  | cons c cs ih =>
    rw [lowercaseAfter] at h
    rcases List.mem_append.mp h with hhead | hrest
    · refine ⟨c, List.mem_cons_self .., ?_⟩
      split at hhead
      · next hsigma =>
        subst hsigma
        obtain rfl := List.mem_singleton.mp hhead
        split
        · exact .inr ⟨rfl, rfl⟩
        · exact .inl (by decide)
      · exact .inl hhead
    · obtain ⟨b, hb, hd⟩ := ih hrest
      exact ⟨b, List.mem_cons_of_mem c hb, hd⟩

theorem isSmall_of_mem_lowercase {cs : List Char} : ∀ d ∈ lowercase cs, IsSmall d := by
  intro d hd
  obtain ⟨c, -, hd | ⟨-, rfl⟩⟩ := exists_of_mem_lowercaseAfter hd
  · exact isSmall_of_mem_lowercaseChar hd
  · exact ⟨by decide, by decide⟩

theorem lowercase_lowercase (cs : List Char) : lowercase (lowercase cs) = lowercase cs :=
  lowercase_of_isSmall isSmall_of_mem_lowercase

theorem lowercase_eq_self_iff (cs : List Char) : lowercase cs = cs ↔ ∀ c ∈ cs, IsSmall c := by
  refine ⟨fun h => ?_, lowercase_of_isSmall⟩
  have hsmall : ∀ d ∈ lowercase cs, IsSmall d := isSmall_of_mem_lowercase
  rwa [h] at hsmall

/-! ## Blanks -/

theorem blanks_apart : tablesApart blank (lowercaseRuns.map sourceRange ++ lowercaseRuns.map imageRange) = true := by
  decide +kernel

theorem isSmall_of_isBlank {c : Char} (h : isBlank c = true) : IsSmall c := by
  obtain ⟨b, hb, hn⟩ := exists_of_inRanges h
  have hsame : smallLetter c = c := by
    rw [← Char.toNat_inj, toNat_smallLetter]
    rcases imageIn_cases lowercaseRuns c.toNat with heq | ⟨r, hr, hin, -⟩
    · exact heq
    · have hsource : (sourceRange r).1 ≤ c.toNat ∧ c.toNat ≤ (sourceRange r).2 := ⟨hin.low, hin.high⟩
      exact absurd hsource (not_in_both blanks_apart hb (List.mem_append_left _ (List.mem_map_of_mem hr)) hn)
  refine ⟨?_, ?_⟩
  · rintro rfl
    exact absurd h (by decide)
  · have hdot : c ≠ '\u0130' := by
      rintro rfl
      exact absurd h (by decide)
    rw [lowercaseChar_of_ne hdot, hsame]

theorem eq_of_isBlank_smallLetter {c : Char} (h : isBlank (smallLetter c) = true) : smallLetter c = c := by
  obtain ⟨b, hb, hn⟩ := exists_of_inRanges h
  rw [← Char.toNat_inj]
  rw [toNat_smallLetter] at hn ⊢
  rcases imageIn_cases lowercaseRuns c.toNat with heq | ⟨r, hr, hin, heq⟩
  · exact heq
  · rw [heq] at hn
    have himage := image_mem_imageRange hin
    exact absurd himage (not_in_both blanks_apart hb (List.mem_append_right _ (List.mem_map_of_mem hr)) hn)

/-- Lower case brings no blank into a text. -/
theorem mem_of_isBlank_of_mem_lowercaseAfter {before cs : List Char} {d : Char} (hd : isBlank d = true)
    (h : d ∈ lowercaseAfter before cs) : d ∈ cs := by
  obtain ⟨c, hc, hmem | ⟨-, rfl⟩⟩ := exists_of_mem_lowercaseAfter h
  · unfold lowercaseChar at hmem
    split at hmem
    · simp only [List.mem_cons, List.not_mem_nil, or_false] at hmem
      rcases hmem with rfl | rfl <;> exact absurd hd (by decide)
    · obtain rfl := List.mem_singleton.mp hmem
      rwa [eq_of_isBlank_smallLetter hd]
  · exact absurd hd (by decide)

/-! ## Octets -/

/-- The octets of the small letters of one character. -/
def smallOctets (c : Char) : ℕ := String.utf8Len (lowercaseChar c)

/-- The letters whose small letters take one octet more. -/
def growing : List Char := ['\u0130', '\u023A', '\u023E']

theorem isUppercase_of_mem_growing {c : Char} (h : c ∈ growing) : isUppercase c = true := by
  simp only [growing, List.mem_cons, List.not_mem_nil, or_false] at h
  rcases h with rfl | rfl | rfl <;> decide

theorem smallOctets_le (c : Char) : smallOctets c ≤ c.utf8Size + if c ∈ growing then 1 else 0 := by
  by_cases hdot : c = '\u0130'
  · subst hdot
    decide
  · rw [smallOctets, lowercaseChar_of_ne hdot, String.utf8Len_cons, String.utf8Len_nil, Nat.zero_add]
    rcases utf8Size_smallLetter c with hle | rfl | rfl
    · exact hle.trans (Nat.le_add_right ..)
    · decide
    · decide

theorem utf8Len_lowercaseAfter (before cs : List Char) :
    String.utf8Len (lowercaseAfter before cs) = (cs.map smallOctets).sum := by
  induction cs generalizing before with
  | nil => rfl
  | cons c cs ih =>
    rw [lowercaseAfter, String.utf8Len_append, ih, List.map_cons, List.sum_cons]
    congr 1
    split
    · next hsigma =>
      subst hsigma
      split <;> decide
    · rfl

theorem utf8Len_lowercase (cs : List Char) : String.utf8Len (lowercase cs) = (cs.map smallOctets).sum :=
  utf8Len_lowercaseAfter [] cs

theorem sum_smallOctets_le (cs : List Char) :
    (cs.map smallOctets).sum ≤ String.utf8Len cs + cs.countP (· ∈ growing) := by
  induction cs with
  | nil => exact Nat.le_refl 0
  | cons c cs ih =>
    have hc := smallOctets_le c
    rw [List.map_cons, List.sum_cons, String.utf8Len_cons, List.countP_cons]
    simp only [decide_eq_true_eq]
    omega

theorem two_mul_countP_growing_le (cs : List Char) : 2 * cs.countP (· ∈ growing) ≤ String.utf8Len cs := by
  induction cs with
  | nil => exact Nat.le_refl 0
  | cons c cs ih =>
    have hc : 2 * (if c ∈ growing then 1 else 0) ≤ c.utf8Size := by
      split
      · next hgrows =>
        simp only [growing, List.mem_cons, List.not_mem_nil, or_false] at hgrows
        rcases hgrows with rfl | rfl | rfl <;> decide
      · exact Nat.zero_le _
    rw [String.utf8Len_cons, List.countP_cons]
    simp only [decide_eq_true_eq]
    omega

end Proximity.Text
