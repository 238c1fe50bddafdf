import Mathlib
import Proximity.Text.Blank

/-! Trimming, by its two ends. A text is `Bare` if neither end is a blank. Trimming takes blanks off both
ends and leaves a bare text, and it gives a bare text back from any blanks written around it. -/
namespace Proximity.Text
set_option autoImplicit false

/-! ## Blanks and ends -/

/-- A text of blanks only. -/
def AllBlank (cs : List Char) : Prop := ∀ c ∈ cs, isBlank c = true

/-- A text that neither begins nor ends with a blank. -/
def Bare (cs : List Char) : Prop :=
  (∀ c ∈ cs.head?, isBlank c = false) ∧ ∀ c ∈ cs.getLast?, isBlank c = false

-- the instances are named because characters are finite: a search may find the one that tries all of them
instance (cs : List Char) : Decidable (AllBlank cs) := List.decidableBAll _ cs

instance (cs : List Char) : Decidable (Bare cs) :=
  @instDecidableAnd _ _ (Option.decidableForallMem _) (Option.decidableForallMem _)

theorem allBlank_reverse {cs : List Char} (h : AllBlank cs) : AllBlank cs.reverse :=
  fun c hc => h c (List.mem_reverse.mp hc)

theorem bare_reverse {cs : List Char} (h : Bare cs) : Bare cs.reverse := by
  refine ⟨?_, ?_⟩
  · rw [List.head?_reverse]
    exact h.2
  · rw [List.getLast?_reverse]
    exact h.1

/-- What begins with a bare text and ends with one is bare, whatever stands between them. -/
theorem bare_append {a b : List Char} (m : List Char) (ha : Bare a) (hb : Bare b) (hna : a ≠ [])
    (hnb : b ≠ []) : Bare (a ++ m ++ b) := by
  refine ⟨?_, ?_⟩
  · rw [List.append_assoc, List.head?_append_of_ne_nil _ hna]
    exact ha.1
  · rw [List.getLast?_append_of_ne_nil _ hnb]
    exact hb.2

/-- The beginning of a bare text is not blank. -/
theorem not_allBlank_of_bare_left {l x : List Char} (h : Bare (l ++ x)) (hl : l ≠ []) : ¬ AllBlank l := by
  intro hb
  cases l with
  | nil => exact hl rfl
  | cons c l =>
    have hc : isBlank c = false := h.1 c rfl
    rw [hb c (List.mem_cons_self ..)] at hc
    exact Bool.noConfusion hc

/-- The end of a bare text is not blank. -/
theorem not_allBlank_of_bare_right {x r : List Char} (h : Bare (x ++ r)) (hr : r ≠ []) : ¬ AllBlank r := by
  intro hb
  have h' := bare_reverse h
  rw [List.reverse_append] at h'
  exact not_allBlank_of_bare_left h' (mt List.reverse_eq_nil_iff.mp hr) (allBlank_reverse hb)

/-! ## Trimming one end -/

theorem trimStart_append {a : List Char} (x : List Char) (ha : AllBlank a) :
    trimStart (a ++ x) = trimStart x :=
  List.dropWhile_append_of_pos ha

theorem trimStart_of_head {cs : List Char} (h : ∀ c ∈ cs.head?, isBlank c = false) : trimStart cs = cs := by
  cases cs with
  | nil => rfl
  | cons c cs => exact List.dropWhile_cons_of_neg (by rw [h c rfl]; exact Bool.false_ne_true)

theorem head_trimStart (cs : List Char) : ∀ c ∈ (trimStart cs).head?, isBlank c = false := by
  intro c hc
  have h := List.head?_dropWhile_not isBlank cs
  rw [trimStart, Option.mem_def] at hc
  rw [hc] at h
  exact h

theorem exists_trimStart (cs : List Char) : ∃ a, AllBlank a ∧ cs = a ++ trimStart cs :=
  ⟨cs.takeWhile isBlank, fun _ hc => List.mem_takeWhile_imp hc, List.takeWhile_append_dropWhile.symm⟩

theorem trimEnd_eq (cs : List Char) : trimEnd cs = (trimStart cs.reverse).reverse := rfl

/-! ## Trimming both ends -/

theorem trim_append {a t b : List Char} (ha : AllBlank a) (ht : Bare t) (hb : AllBlank b) :
    trim (a ++ t ++ b) = t := by
  have hstart : trimStart (a ++ t ++ b) = trimStart (t ++ b) := by
    rw [List.append_assoc, trimStart_append _ ha]
  rw [trim, hstart, trimEnd_eq]
  by_cases hn : t = []
  · subst hn
    have hnil : trimStart b = [] := List.dropWhile_eq_nil_iff.mpr hb
    rw [List.nil_append, hnil]
    rfl
  · have hhead : trimStart (t ++ b) = t ++ b := trimStart_of_head (by
      rw [List.head?_append_of_ne_nil _ hn]
      exact ht.1)
    rw [hhead, List.reverse_append, trimStart_append _ (allBlank_reverse hb),
      trimStart_of_head (bare_reverse ht).1, List.reverse_reverse]

theorem trim_of_bare {t : List Char} (ht : Bare t) : trim t = t := by
  have h := trim_append (a := []) (b := []) nofun ht nofun
  rwa [List.nil_append, List.append_nil] at h

theorem trim_append_right {t b : List Char} (ht : Bare t) (hb : AllBlank b) : trim (t ++ b) = t :=
  trim_append (a := []) nofun ht hb

theorem trim_append_left {a t : List Char} (ha : AllBlank a) (ht : Bare t) : trim (a ++ t) = t := by
  have h := trim_append (b := []) ha ht nofun
  rwa [List.append_nil] at h

theorem exists_trim (cs : List Char) : ∃ a b, AllBlank a ∧ AllBlank b ∧ cs = a ++ trim cs ++ b := by
  obtain ⟨a, ha, hcs⟩ := exists_trimStart cs
  obtain ⟨b, hb, hrest⟩ := exists_trimStart (trimStart cs).reverse
  refine ⟨a, b.reverse, ha, allBlank_reverse hb, ?_⟩
  have h := congrArg List.reverse hrest
  rw [List.reverse_reverse, List.reverse_append] at h
  rw [List.append_assoc, trim, trimEnd_eq, ← h]
  exact hcs

theorem trim_isInfix (cs : List Char) : trim cs <:+: cs := by
  obtain ⟨a, b, -, -, hcs⟩ := exists_trim cs
  exact ⟨a, b, hcs.symm⟩

theorem bare_trim (cs : List Char) : Bare (trim cs) := by
  refine ⟨?_, ?_⟩
  · intro c hc
    obtain ⟨b, _, hrest⟩ := exists_trimStart (trimStart cs).reverse
    have h := congrArg List.reverse hrest
    rw [List.reverse_reverse, List.reverse_append, ← trimEnd_eq] at h
    have hne : trimEnd (trimStart cs) ≠ [] := by
      intro hnil
      rw [trim, hnil] at hc
      cases hc
    have hhead := head_trimStart cs c
    rw [h, List.head?_append_of_ne_nil _ hne] at hhead
    exact hhead hc
  · rw [trim, trimEnd_eq, List.getLast?_reverse]
    exact head_trimStart _

theorem length_trim_le (cs : List Char) : (trim cs).length ≤ cs.length := by
  obtain ⟨a, b, -, -, hcs⟩ := exists_trim cs
  have hlen := congrArg List.length hcs
  rw [List.length_append, List.length_append] at hlen
  omega

theorem trim_ne_nil {cs : List Char} (h : ¬ AllBlank cs) : trim cs ≠ [] := by
  intro hnil
  obtain ⟨a, b, ha, hb, hcs⟩ := exists_trim cs
  rw [hnil, List.append_nil] at hcs
  apply h
  rw [hcs]
  intro c hc
  exact (List.mem_append.mp hc).elim (ha c) (hb c)

end Proximity.Text
