import Proximity.Text.WordBreak
import Proximity.Proofs.Text.CodePoints
import Proximity.Proofs.Text.Trim

/-! The pieces of a text between its word boundaries, and the blanks in them. A piece is a stretch of the text whose
characters stay together. A blank stays with a blank before it or with what attaches to it, so that it stands in
front of its piece; the narrow no-break space alone connects words.

* `exists_of_mem_piecesAfter`: a piece as a stretch of characters that stay together.
* `blanks_of_piece`: where blanks stand in a piece. -/
namespace Proximity.Text
set_option autoImplicit false

/-! ## Pieces -/

/-- The characters of a stretch stay together, between `before`, nearest first, and `after`. -/
def StayTogether : (before stretch after : List Mark) → Prop
  | before, m :: n :: q, after =>
    joins (m :: before) (n :: q ++ after) = true ∧ StayTogether (m :: before) (n :: q) after
  | _, _, _ => True

theorem joins_nil (before : List Mark) : joins before [] = false := by cases before <;> rfl

/-- The pieces of a text: a first stretch that stays together and the pieces of what is behind it. -/
theorem piecesAfter_eq_cons (before : List Mark) {marks : List Mark} (h : marks ≠ []) :
    ∃ q rest, marks = q ++ rest ∧ q ≠ [] ∧ StayTogether before q rest ∧
      piecesAfter before marks = q.map Mark.char :: piecesAfter (q.reverse ++ before) rest := by
  induction marks generalizing before with
  | nil => exact absurd rfl h
  | cons m marks ih =>
    by_cases hjoins : joins (m :: before) marks = true
    · have hne : marks ≠ [] := by
        rintro rfl
        rw [joins_nil] at hjoins
        exact Bool.noConfusion hjoins
      obtain ⟨q, rest, rfl, hq, hstay, hpieces⟩ := ih (m :: before) hne
      refine ⟨m :: q, rest, rfl, List.cons_ne_nil m q, ?_, ?_⟩
      · cases q with
        | nil => exact absurd rfl hq
        | cons n q => exact ⟨hjoins, hstay⟩
      · rw [piecesAfter, if_pos hjoins, hpieces, List.reverse_cons, List.append_assoc]
        rfl
    · refine ⟨[m], marks, rfl, List.cons_ne_nil m [], trivial, ?_⟩
      rw [piecesAfter, if_neg hjoins]
      rfl

theorem exists_of_mem_piecesAfter {before marks : List Mark} {p : List Char}
    (hp : p ∈ piecesAfter before marks) :
    ∃ front q rest, marks = front ++ q ++ rest ∧ q ≠ [] ∧ StayTogether (front.reverse ++ before) q rest ∧
      p = q.map Mark.char := by
  -- by length: the pieces behind the first one are those of a shorter text, not of its tail
  induction hn : marks.length using Nat.strong_induction_on generalizing before marks with
  | _ n ih =>
    by_cases hne : marks = []
    · subst hne
      cases hp
    · obtain ⟨q, rest, rfl, hq, hstay, hpieces⟩ := piecesAfter_eq_cons before hne
      rw [hpieces] at hp
      rcases List.mem_cons.mp hp with rfl | hp
      · exact ⟨[], q, rest, rfl, hq, hstay, rfl⟩
      · have hshort : rest.length < n := by
          have hpos := List.length_pos_of_ne_nil hq
          rw [List.length_append] at hn
          omega
        obtain ⟨front, q', rest', rfl, hq', hstay', rfl⟩ := ih rest.length hshort hp rfl
        refine ⟨q ++ front, q', rest', by simp only [List.append_assoc], hq', ?_, rfl⟩
        rwa [List.reverse_append, List.append_assoc]

theorem ne_nil_of_mem_wordPieces {cs p : List Char} (hp : p ∈ wordPieces cs) : p ≠ [] := by
  obtain ⟨front, q, rest, -, hq, -, rfl⟩ := exists_of_mem_piecesAfter hp
  exact mt List.map_eq_nil_iff.mp hq

theorem infix_of_mem_wordPieces {cs p : List Char} (hp : p ∈ wordPieces cs) : p <:+: cs := by
  rw [← flatten_wordPieces cs]
  exact List.infix_of_mem_flatten hp

/-! ## Word classes of blanks -/

theorem exists_of_signClass {table : List (ℕ × ℕ × WordClass)} {n : ℕ} {k : WordClass}
    (h : signClass table n = some k) : ∃ e ∈ table, e.1 ≤ n ∧ n ≤ e.2.1 ∧ e.2.2 = k := by
  induction table with
  | nil => cases h
  | cons v rest ih =>
    rw [signClass] at h
    split at h
    · cases h
    · next hlow =>
      split at h
      · next hhigh => exact ⟨v, List.mem_cons_self .., Nat.not_lt.mp hlow, hhigh, Option.some.inj h⟩
      · obtain ⟨e, he, hn⟩ := ih h
        exact ⟨e, List.mem_cons_of_mem v he, hn⟩

/-- A class other than of letters, of extenders and of nothing in particular comes from the table of signs. -/
theorem exists_sign {c : Char} {k : WordClass} (h : WordClass.ofChar c = k) (hl : k ≠ .letter)
    (he : k ≠ .extend) (ho : k ≠ .other) : ∃ e ∈ signs, e.1 ≤ c.toNat ∧ c.toNat ≤ e.2.1 ∧ e.2.2 = k := by
  unfold WordClass.ofChar at h
  split at h
  · next kind hkind => exact exists_of_signClass (h ▸ hkind)
  · split at h
    · exact absurd h.symm hl
    · split at h
      · exact absurd h.symm he
      · exact absurd h.symm ho

/-- The ranges of what attaches to the character before it. -/
def attachedRanges : List (ℕ × ℕ) :=
  extenders ++ (signs.filter fun e => e.2.2.isAttached).map fun e => (e.1, e.2.1)

theorem exists_of_isAttached {c : Char} (h : (WordClass.ofChar c).isAttached = true) :
    ∃ e ∈ attachedRanges, e.1 ≤ c.toNat ∧ c.toNat ≤ e.2 := by
  unfold WordClass.ofChar at h
  split at h
  · next kind hkind =>
    obtain ⟨e, he, hlow, hhigh, rfl⟩ := exists_of_signClass hkind
    have hsign : e ∈ signs.filter fun e => e.2.2.isAttached := List.mem_filter.mpr ⟨he, h⟩
    exact ⟨(e.1, e.2.1), List.mem_append_right _ (List.mem_map.mpr ⟨e, hsign, rfl⟩), hlow, hhigh⟩
  · split at h
    · cases h
    · split at h
      · next hextender =>
        obtain ⟨e, he, hn⟩ := exists_of_inRanges hextender
        exact ⟨e, List.mem_append_left _ he, hn⟩
      · cases h

/-- Signs are not joined to what is before them, and those of spaces and of ends of lines are blanks. -/
theorem signs_checked : ∀ e ∈ signs, e.2.2 ≠ .joinedPictograph ∧
    (e.2.2 = .space ∨ e.2.2.isLineEnd = true → ∃ b ∈ blank, b.1 ≤ e.1 ∧ e.2.1 ≤ b.2) := by
  decide +kernel

theorem ofChar_ne_joinedPictograph (c : Char) : WordClass.ofChar c ≠ .joinedPictograph := by
  intro h
  obtain ⟨e, he, -, -, hk⟩ := exists_sign h (by decide) (by decide) (by decide)
  exact (signs_checked e he).1 hk

/-- The class of a code point. -/
def classAt (n : ℕ) : WordClass :=
  match signClass signs n with
  | some kind => kind
  | none => if inRanges letters n then .letter else if inRanges extenders n then .extend else .other

theorem ofChar_eq_classAt (c : Char) : WordClass.ofChar c = classAt c.toNat := rfl

theorem classes_of_blanks : ∀ e ∈ blank, ∀ i < e.2 + 1 - e.1,
    classAt (e.1 + i) = .space ∨ classAt (e.1 + i) = .other ∨ (classAt (e.1 + i)).isLineEnd = true ∨
      classAt (e.1 + i) = .connector ∧ e.1 + i = 0x202F := by
  decide +kernel

theorem class_of_isBlank {c : Char} (h : isBlank c = true) :
    WordClass.ofChar c = .space ∨ WordClass.ofChar c = .other ∨ (WordClass.ofChar c).isLineEnd = true ∨
      WordClass.ofChar c = .connector ∧ c = '\u202F' := by
  obtain ⟨e, he, hlow, hhigh⟩ := exists_of_inRanges h
  have hclass := classes_of_blanks e he (c.toNat - e.1) (by omega)
  rw [Nat.add_sub_cancel' hlow] at hclass
  rw [ofChar_eq_classAt, ← Char.toNat_inj]
  exact hclass

theorem ascending_blank : (blank.map Prod.fst).Pairwise (· ≤ ·) :=
  List.isChain_iff_pairwise.mp (by decide)

theorem isBlank_of_class {c : Char}
    (h : WordClass.ofChar c = .space ∨ (WordClass.ofChar c).isLineEnd = true) : isBlank c = true := by
  have hsign : ∃ e ∈ signs, e.1 ≤ c.toNat ∧ c.toNat ≤ e.2.1 ∧ (e.2.2 = .space ∨ e.2.2.isLineEnd = true) := by
    have hk : WordClass.ofChar c ≠ .letter ∧ WordClass.ofChar c ≠ .extend ∧ WordClass.ofChar c ≠ .other := by
      refine ⟨?_, ?_, ?_⟩ <;> · intro heq; simp [heq, WordClass.isLineEnd] at h
    obtain ⟨e, he, hlow, hhigh, heq⟩ := exists_sign rfl hk.1 hk.2.1 hk.2.2
    exact ⟨e, he, hlow, hhigh, heq ▸ h⟩
  obtain ⟨e, he, hlow, hhigh, hk⟩ := hsign
  obtain ⟨b, hb, hfirst, hlast⟩ := (signs_checked e he).2 hk
  exact inRanges_of_mem ascending_blank hb (hfirst.trans hlow) (hhigh.trans hlast)

theorem not_isPictograph_of_isBlank {c : Char} (h : isBlank c = true) : isPictograph c = false :=
  inRanges_eq_false_of_apart (by decide +kernel : tablesApart blank pictographs = true) h

/-! ## Marks of a text -/

/-- A mark whose class is the one of its character, or that is a pictograph behind a joiner. -/
def Mark.OfText (m : Mark) : Prop :=
  m.kind = WordClass.ofChar m.char ∨ m.kind = .joinedPictograph ∧ isPictograph m.char = true

theorem ofText_of_mem_marksBehind {joiner : Bool} {cs : List Char} {m : Mark} (h : m ∈ marksBehind joiner cs) :
    m.OfText := by
  induction cs generalizing joiner with
  | nil => cases h
  | cons c cs ih =>
    rcases List.mem_cons.mp h with rfl | h
    · unfold Mark.behind
      split
      · next hjoined => exact .inr ⟨rfl, (Bool.and_eq_true_iff.mp hjoined).2⟩
      · exact .inl rfl
    · exact ih h

/-- A pictograph is joined only behind a joiner. -/
theorem joiner_of_joinedPictograph {joiner : Bool} {cs : List Char} {front rest : List Mark} {m n : Mark}
    (h : marksBehind joiner cs = front ++ m :: n :: rest) (hn : n.kind = .joinedPictograph) :
    WordClass.ofChar m.char = .joiner := by
  induction front generalizing joiner cs with
  | nil =>
    cases cs with
    | nil => cases h
    | cons c cs =>
      obtain ⟨rfl, htail⟩ := List.cons.inj h
      cases cs with
      | nil => cases htail
      | cons d cs =>
        obtain ⟨rfl, -⟩ := List.cons.inj htail
        unfold Mark.behind at hn
        split at hn
        · next hjoined => exact of_decide_eq_true (Bool.and_eq_true_iff.mp hjoined).1
        · exact absurd hn (ofChar_ne_joinedPictograph d)
  | cons x front ih =>
    cases cs with
    | nil => cases h
    | cons c cs =>
      obtain ⟨-, htail⟩ := List.cons.inj h
      exact ih htail

/-- A mark of a blank other than the narrow no-break space, which connects words. -/
def Mark.IsGap (m : Mark) : Prop := isBlank m.char = true ∧ m.char ≠ '\u202F'

theorem Mark.IsGap.kind {m : Mark} (hm : m.OfText) (h : m.IsGap) :
    m.kind = WordClass.ofChar m.char ∧ (m.kind = .space ∨ m.kind = .other ∨ m.kind.isLineEnd = true) := by
  obtain ⟨hblank, hne⟩ := h
  rcases hm with hkind | ⟨-, hpicture⟩
  · rw [hkind]
    refine ⟨rfl, ?_⟩
    rcases class_of_isBlank hblank with hk | hk | hk | ⟨-, hk⟩
    · exact .inl hk
    · exact .inr (.inl hk)
    · exact .inr (.inr hk)
    · exact absurd hk hne
  · rw [not_isPictograph_of_isBlank hblank] at hpicture
    exact Bool.noConfusion hpicture

theorem isGap_of_kind {m : Mark} (hm : m.OfText) (h : m.kind = .space ∨ m.kind.isLineEnd = true) : m.IsGap := by
  have hkind : m.kind = WordClass.ofChar m.char := by
    rcases hm with hkind | ⟨hkind, -⟩
    · exact hkind
    · rw [hkind] at h
      simp [WordClass.isLineEnd] at h
  rw [hkind] at h
  refine ⟨isBlank_of_class h, ?_⟩
  intro hc
  rw [hc] at h
  exact absurd h (by decide)

/-! ## What stays together -/

/-- Why two characters stay together, apart from the end of a line in two characters. -/
inductive Joined (p : Mark) (before : List Mark) (n : Mark) (rest : List Mark) : Prop
  | picture (h : n.kind = .joinedPictograph)
  | spaces (hp : p.kind = .space) (hn : n.kind = .space)
  | attached (h : n.kind.isAttached = true)
  | letters (h : joinsAsLetters (nearest (significant (p :: before)).tail) (nearest (p :: before)) n.kind
      (nearest rest) = true)
  | numbers (h : joinsAsNumbers (nearest (significant (p :: before)).tail) (nearest (p :: before)) n.kind
      (nearest rest) = true)
  | connector (h : joinsByConnector (nearest (p :: before)) n.kind = true)
  | regional (hp : nearest (p :: before) = .regional) (hn : n.kind = .regional)

theorem joins_cases {p n : Mark} {before rest : List Mark} (h : joins (p :: before) (n :: rest) = true) :
    p.kind = .carriageReturn ∧ n.kind = .lineFeed ∨
      p.kind.isLineEnd = false ∧ n.kind.isLineEnd = false ∧ Joined p before n rest := by
  simp only [joins] at h
  split at h
  · next hline => exact .inl (by simpa using hline)
  · split at h
    · cases h
    · next hlines =>
      obtain ⟨hp, hn⟩ := Bool.or_eq_false_iff.mp (Bool.eq_false_of_not_eq_true hlines)
      refine .inr ⟨hp, hn, ?_⟩
      split at h
      · next hpicture => exact .picture hpicture
      · split at h
        · next hspaces =>
          obtain ⟨hp, hn⟩ : p.kind = .space ∧ n.kind = .space := by simpa using hspaces
          exact .spaces hp hn
        · split at h
          · next hattached => exact .attached hattached
          · simp only [Bool.or_eq_true] at h
            rcases h with ((h | h) | h) | h
            · exact .letters h
            · exact .numbers h
            · exact .connector h
            · obtain ⟨⟨hp, hn⟩, -⟩ : (nearest (p :: before) = .regional ∧ n.kind = .regional) ∧ _ := by
                simpa only [Bool.and_eq_true, decide_eq_true_eq] using h
              exact .regional hp hn

/-- A class that joins nothing before or behind it by the rules on words. -/
def WordClass.IsDull (k : WordClass) : Prop := k = .space ∨ k = .other ∨ k = .joinedPictograph

/-- A class that stays with what is before it, whatever that is. -/
def WordClass.Attaches (k : WordClass) : Prop := k = .joinedPictograph ∨ k.isAttached = true

theorem WordClass.Attaches.not_isLineEnd {k : WordClass} (h : k.Attaches) : k.isLineEnd = false := by
  rcases h with rfl | h
  · rfl
  · cases k <;> first | rfl | cases h

theorem WordClass.Attaches.ne_space {k : WordClass} (h : k.Attaches) : k ≠ .space := by
  rintro rfl
  rcases h with h | h <;> cases h

theorem joinsAsLetters_dull {far near next beyond : WordClass} (h : near.IsDull ∨ next.IsDull) :
    joinsAsLetters far near next beyond = false := by
  rcases h with (rfl | rfl | rfl) | (rfl | rfl | rfl) <;>
    simp [joinsAsLetters, WordClass.isLetter, WordClass.joinsLetters]

theorem joinsAsNumbers_dull {far near next beyond : WordClass} (h : near.IsDull ∨ next.IsDull) :
    joinsAsNumbers far near next beyond = false := by
  rcases h with (rfl | rfl | rfl) | (rfl | rfl | rfl) <;>
    simp [joinsAsNumbers, WordClass.isLetter, WordClass.joinsNumbers]

theorem joinsByConnector_dull {near next : WordClass} (h : near.IsDull ∨ next.IsDull) :
    joinsByConnector near next = false := by
  rcases h with (rfl | rfl | rfl) | (rfl | rfl | rfl) <;> simp [joinsByConnector, WordClass.isWordPart]

theorem Joined.of_dull {p n : Mark} {before rest : List Mark} (h : Joined p before n rest)
    (hdull : (nearest (p :: before)).IsDull ∨ n.kind.IsDull) :
    p.kind = .space ∧ n.kind = .space ∨ n.kind.Attaches := by
  cases h with
  | picture hpicture => exact .inr (.inl hpicture)
  | spaces hp hn => exact .inl ⟨hp, hn⟩
  | attached hattached => exact .inr (.inr hattached)
  | letters hletters =>
    rw [joinsAsLetters_dull hdull] at hletters
    exact Bool.noConfusion hletters
  | numbers hnumbers =>
    rw [joinsAsNumbers_dull hdull] at hnumbers
    exact Bool.noConfusion hnumbers
  | connector hconnector =>
    rw [joinsByConnector_dull hdull] at hconnector
    exact Bool.noConfusion hconnector
  | regional hp hn =>
    rw [hp, hn] at hdull
    rcases hdull with (h | h | h) | (h | h | h) <;> cases h

/-- Nothing but a space, or what a line ends with, stays with a gap behind it. -/
theorem joins_gap {p n : Mark} {before rest : List Mark}
    (hn : n.kind = .space ∨ n.kind = .other ∨ n.kind.isLineEnd = true)
    (h : joins (p :: before) (n :: rest) = true) :
    p.kind = .carriageReturn ∧ n.kind = .lineFeed ∨ p.kind = .space ∧ n.kind = .space := by
  rcases joins_cases h with hline | ⟨-, hend, hjoined⟩
  · exact .inl hline
  · have hk : n.kind = .space ∨ n.kind = .other := by
      rcases hn with hn | hn | hn
      · exact .inl hn
      · exact .inr hn
      · exact Bool.noConfusion (hend.symm.trans hn)
    have hdull : n.kind.IsDull := hk.imp_right .inl
    rcases hjoined.of_dull (.inr hdull) with hspaces | hattaches
    · exact .inr hspaces
    · rcases hk with hk | hk <;> rw [hk] at hattaches <;> rcases hattaches with h | h <;> cases h

/-- What stays with something dull is a further space, or it attaches. -/
theorem joins_dull {p n : Mark} {before rest : List Mark} (hp : (nearest (p :: before)).IsDull)
    (hend : p.kind.isLineEnd = false) (h : joins (p :: before) (n :: rest) = true) :
    p.kind = .space ∧ n.kind = .space ∨ n.kind.Attaches := by
  rcases joins_cases h with ⟨hline, -⟩ | ⟨-, -, hjoined⟩
  · rw [hline] at hend
    cases hend
  · exact hjoined.of_dull (.inl hp)

/-! ## Stretches that begin with a gap -/

theorem nearest_attached {n : Mark} (h : n.kind.isAttached = true) (before : List Mark) :
    nearest (n :: before) = nearest before := by
  unfold nearest significant
  rw [List.dropWhile_cons_of_pos (by exact h)]

theorem nearest_not_attached {n : Mark} (h : n.kind.isAttached = false) (before : List Mark) :
    nearest (n :: before) = n.kind := by
  rw [nearest, significant, List.dropWhile_cons_of_neg (by rw [h]; exact Bool.false_ne_true)]

theorem isDull_nearest {m : Mark} (h : m.kind.IsDull) (before : List Mark) : (nearest (m :: before)).IsDull := by
  have hattached : m.kind.isAttached = false := by rcases h with h | h | h <;> rw [h] <;> rfl
  rwa [nearest_not_attached hattached]

theorem isDull_nearest_attaches {n : Mark} {before : List Mark} (hbefore : (nearest before).IsDull)
    (hn : n.kind.Attaches) : (nearest (n :: before)).IsDull := by
  rcases hn with hn | hn
  · exact isDull_nearest (.inr (.inr hn)) before
  · rwa [nearest_attached hn]

theorem attaches_behind_dull {before q after : List Mark} {m : Mark} (hdull : (nearest (m :: before)).IsDull)
    (hend : m.kind.isLineEnd = false) (hspace : m.kind ≠ .space) (hstay : StayTogether before (m :: q) after) :
    ∀ n ∈ q, n.kind.Attaches := by
  -- along the stretch the nearest class stays dull: what attaches is passed over, or it is a pictograph
  induction q generalizing m before with
  | nil => nofun
  | cons n q ih =>
    obtain ⟨hjoins, hrest⟩ := hstay
    have hn : n.kind.Attaches := (joins_dull hdull hend hjoins).resolve_left fun h => hspace h.1
    intro x hx
    rcases List.mem_cons.mp hx with rfl | hx
    · exact hn
    · exact ih (isDull_nearest_attaches hdull hn) hn.not_isLineEnd hn.ne_space hrest x hx

theorem behind_space {before q after : List Mark} {m : Mark} (hm : m.kind = .space)
    (hstay : StayTogether before (m :: q) after) :
    ∃ s a, q = s ++ a ∧ (∀ n ∈ s, n.kind = .space) ∧ ∀ n ∈ a, n.kind.Attaches := by
  induction q generalizing m before with
  | nil => exact ⟨[], [], rfl, nofun, nofun⟩
  | cons n q ih =>
    have hdull := isDull_nearest (.inl hm) before
    obtain ⟨hjoins, hrest⟩ := hstay
    rcases joins_dull hdull (by rw [hm]; rfl) hjoins with ⟨-, hn⟩ | hn
    · obtain ⟨s, a, rfl, hs, ha⟩ := ih hn hrest
      exact ⟨n :: s, a, rfl, List.forall_mem_cons.mpr ⟨hn, hs⟩, ha⟩
    · have hq := attaches_behind_dull (isDull_nearest_attaches hdull hn) hn.not_isLineEnd hn.ne_space hrest
      exact ⟨[], n :: q, rfl, nofun, List.forall_mem_cons.mpr ⟨hn, hq⟩⟩

theorem behind_lineEnd {before q after : List Mark} {m : Mark} (hm : m.kind.isLineEnd = true)
    (hstay : StayTogether before (m :: q) after) : ∀ n ∈ q, n.kind.isLineEnd = true := by
  induction q generalizing m before with
  | nil => nofun
  | cons n q ih =>
    obtain ⟨hjoins, hrest⟩ := hstay
    rcases joins_cases hjoins with ⟨-, hn⟩ | ⟨hend, -, -⟩
    · have hn' : n.kind.isLineEnd = true := by rw [hn]; rfl
      exact List.forall_mem_cons.mpr ⟨hn', ih hn' hrest⟩
    · exact Bool.noConfusion (hend.symm.trans hm)

/-- A gap anywhere in a stretch means that the stretch begins with one. -/
theorem isGap_head {before q after : List Mark} {m n : Mark} (hof : ∀ x ∈ m :: q, x.OfText)
    (hstay : StayTogether before (m :: q) after) (hn : n ∈ q) (hgap : n.IsGap) : m.IsGap := by
  -- from the gap backwards: what stays with a gap behind it is a space or ends a line
  induction q generalizing m before with
  | nil => cases hn
  | cons x q ih =>
    obtain ⟨hjoins, hrest⟩ := hstay
    obtain ⟨hm, hq⟩ := List.forall_mem_cons.mp hof
    have hx : x.IsGap := by
      rcases List.mem_cons.mp hn with rfl | hn
      · exact hgap
      · exact ih hq hrest hn
    have hkind := (hx.kind (hq x (List.mem_cons_self ..))).2
    rcases joins_gap hkind hjoins with ⟨hline, -⟩ | ⟨hspace, -⟩
    · exact isGap_of_kind hm (.inr (by rw [hline]; rfl))
    · exact isGap_of_kind hm (.inl hspace)

/-- A stretch that begins with a gap is all blank, or blanks stand in front of it and the rest attaches to them. -/
theorem stretch_of_isGap {before q after : List Mark} {m : Mark} (hof : ∀ x ∈ m :: q, x.OfText) (hm : m.IsGap)
    (hstay : StayTogether before (m :: q) after) :
    (∀ x ∈ m :: q, x.IsGap) ∨
      ∃ s a, q = s ++ a ∧ (∀ x ∈ m :: s, x.IsGap ∧ x.kind.isLineEnd = false) ∧ ∀ x ∈ a, x.kind.Attaches := by
  obtain ⟨hm', hq⟩ := List.forall_mem_cons.mp hof
  rcases (hm.kind hm').2 with hk | hk | hk
  · obtain ⟨s, a, rfl, hs, ha⟩ := behind_space hk hstay
    refine .inr ⟨s, a, rfl, List.forall_mem_cons.mpr ⟨⟨hm, by rw [hk]; rfl⟩, fun x hx => ?_⟩, ha⟩
    exact ⟨isGap_of_kind (hq x (List.mem_append_left a hx)) (.inl (hs x hx)), by rw [hs x hx]; rfl⟩
  · have hdull := isDull_nearest (.inr (.inl hk)) before
    have hend : m.kind.isLineEnd = false := by rw [hk]; rfl
    have ha := attaches_behind_dull hdull hend (by rw [hk]; decide) hstay
    exact .inr ⟨[], q, rfl, List.forall_mem_cons.mpr ⟨⟨hm, hend⟩, nofun⟩, ha⟩
  · refine .inl (List.forall_mem_cons.mpr ⟨hm, fun x hx => ?_⟩)
    exact isGap_of_kind (hq x hx) (.inr (behind_lineEnd hk hstay x hx))

/-! ## Words of letters -/

theorem joins_letters {m n : Mark} (before rest : List Mark) (hm : m.kind = .letter) (hn : n.kind = .letter) :
    joins (m :: before) (n :: rest) = true := by
  have hnear : nearest (m :: before) = .letter := by
    rw [nearest_not_attached (by rw [hm]; rfl), hm]
  simp [joins, hm, hn, hnear, WordClass.isLineEnd, WordClass.isAttached, joinsAsLetters, WordClass.isLetter]

theorem piecesAfter_letters (before : List Mark) {marks : List Mark} (hne : marks ≠ [])
    (h : ∀ m ∈ marks, m.kind = .letter) : piecesAfter before marks = [marks.map Mark.char] := by
  induction marks generalizing before with
  | nil => exact absurd rfl hne
  | cons m marks ih =>
    obtain ⟨hm, hmarks⟩ := List.forall_mem_cons.mp h
    cases marks with
    | nil => rw [piecesAfter, joins_nil, if_neg Bool.false_ne_true, piecesAfter, List.map_singleton]
    | cons n marks =>
      have hn : n.kind = .letter := hmarks n (List.mem_cons_self ..)
      rw [piecesAfter, if_pos (joins_letters before marks hm hn), ih (m :: before) (List.cons_ne_nil n marks) hmarks]
      rfl

theorem kind_of_letters {cs : List Char} (h : ∀ c ∈ cs, WordClass.ofChar c = .letter) :
    ∀ m ∈ marksBehind false cs, m.kind = .letter := by
  induction cs with
  | nil => nofun
  | cons c cs ih =>
    obtain ⟨hc, hcs⟩ := List.forall_mem_cons.mp h
    have hjoiner : decide (WordClass.ofChar c = .joiner) = false := by rw [hc]; rfl
    rw [marksBehind, hjoiner]
    exact List.forall_mem_cons.mpr ⟨hc, ih hcs⟩

/-- A word of letters is one piece. -/
theorem wordPieces_letters {cs : List Char} (hne : cs ≠ []) (h : ∀ c ∈ cs, WordClass.ofChar c = .letter) :
    wordPieces cs = [cs] := by
  have hmarks : marksBehind false cs ≠ [] := by
    intro hnil
    rw [← map_char_marksBehind false cs, hnil] at hne
    exact hne rfl
  rw [wordPieces, piecesAfter_letters [] hmarks (kind_of_letters h), map_char_marksBehind]

/-! ## Blanks in pieces -/

theorem not_isBlank_of_attaches {n : Mark} (hn : n.OfText) (h : n.kind.Attaches) : isBlank n.char = false := by
  by_contra hne
  have hblank : isBlank n.char = true := Bool.eq_true_of_not_eq_false hne
  rcases hn with hkind | ⟨-, hpicture⟩
  · rw [hkind] at h
    rcases class_of_isBlank hblank with hk | hk | hk | ⟨hk, -⟩
    · exact h.ne_space hk
    · rw [hk] at h
      rcases h with h | h <;> cases h
    · exact Bool.noConfusion (h.not_isLineEnd.symm.trans hk)
    · rw [hk] at h
      rcases h with h | h <;> cases h
  · exact Bool.noConfusion ((not_isPictograph_of_isBlank hblank).symm.trans hpicture)

/-- Blanks of one line with a character behind them that attaches to the last of them, and no blank further on. -/
structure LedByBlanks (b : List Char) (m : Char) (r : List Char) : Prop where
  ne_nil : b ≠ []
  blank : AllBlank b
  line : ∀ c ∈ b, (WordClass.ofChar c).isLineEnd = false
  attached : (WordClass.ofChar m).isAttached = true
  free : ∀ c ∈ m :: r, isBlank c = false

/-- What attaches right behind gaps is no pictograph: there is no joiner before it. -/
theorem attached_behind_gap {m x : Mark} {s a : List Mark} (hof : ∀ y ∈ m :: (s ++ x :: a), y.OfText)
    (hs : ∀ y ∈ m :: s, y.IsGap)
    (hjoiner : ∀ front y z rest, m :: (s ++ x :: a) = front ++ y :: z :: rest → z.kind = .joinedPictograph →
      WordClass.ofChar y.char = .joiner)
    (hx : x.kind.Attaches) : (WordClass.ofChar x.char).isAttached = true := by
  rcases hx with hx | hx
  · obtain ⟨front, y, hfront⟩ := (List.eq_nil_or_concat' (m :: s)).resolve_left (List.cons_ne_nil m s)
    have hy : y ∈ m :: s := by
      rw [hfront]
      exact List.mem_append_right front (List.mem_singleton_self y)
    have hsplit : m :: (s ++ x :: a) = front ++ y :: x :: a := by
      rw [← List.cons_append, hfront, List.append_assoc]
      rfl
    obtain ⟨hkind, hgap⟩ := (hs y hy).kind (hof y (List.mem_append_left (x :: a) hy))
    rw [hkind, hjoiner front y x a hsplit hx] at hgap
    rcases hgap with hgap | hgap | hgap <;> cases hgap
  · rcases hof x (List.mem_append_right (m :: s) (List.mem_cons_self ..)) with hkind | ⟨hkind, -⟩
    · rwa [← hkind]
    · rw [hkind] at hx
      cases hx

theorem blanks_of_stretch {before q after : List Mark} (hof : ∀ x ∈ q, x.OfText)
    (hstay : StayTogether before q after)
    (hjoiner : ∀ front x y rest, q = front ++ x :: y :: rest → y.kind = .joinedPictograph →
      WordClass.ofChar x.char = .joiner) :
    (∀ c ∈ q.map Mark.char, isBlank c = true → c = '\u202F') ∨ AllBlank (q.map Mark.char) ∨
      ∃ b m r, q.map Mark.char = b ++ m :: r ∧ LedByBlanks b m r := by
  cases q with
  | nil => exact .inl nofun
  | cons m q =>
    by_cases hm : m.IsGap
    · rcases stretch_of_isGap hof hm hstay with hgaps | ⟨s, a, rfl, hs, ha⟩
      · exact .inr (.inl (List.forall_mem_map.mpr fun x hx => (hgaps x hx).1))
      · have hblank : AllBlank ((m :: s).map Mark.char) := List.forall_mem_map.mpr fun x hx => (hs x hx).1.1
        cases a with
        | nil =>
          rw [List.append_nil]
          exact .inr (.inl hblank)
        | cons x a =>
          have hfree : ∀ c ∈ (x :: a).map Mark.char, isBlank c = false := by
            refine List.forall_mem_map.mpr fun y hy => not_isBlank_of_attaches (hof y ?_) (ha y hy)
            exact List.mem_append_right (m :: s) hy
          have hline : ∀ c ∈ (m :: s).map Mark.char, (WordClass.ofChar c).isLineEnd = false := by
            refine List.forall_mem_map.mpr fun y hy => ?_
            obtain ⟨hgap, hend⟩ := hs y hy
            rwa [← (hgap.kind (hof y (List.mem_append_left (x :: a) hy))).1]
          have hattached := attached_behind_gap hof (fun y hy => (hs y hy).1) hjoiner (ha x (List.mem_cons_self ..))
          have hsplit : (m :: (s ++ x :: a)).map Mark.char = (m :: s).map Mark.char ++ (x :: a).map Mark.char := by
            rw [← List.map_append, List.cons_append]
          exact .inr (.inr ⟨_, _, _, hsplit, List.cons_ne_nil _ _, hblank, hline, hattached, hfree⟩)
    · refine .inl (List.forall_mem_map.mpr fun x hx hblank => ?_)
      by_contra hne
      rcases List.mem_cons.mp hx with rfl | hx
      · exact hm ⟨hblank, hne⟩
      · exact hm (isGap_head hof hstay hx ⟨hblank, hne⟩)

/-- Where blanks stand in a piece: they are narrow no-break spaces, or they are all of it, or they lead it. -/
theorem blanks_of_piece {cs p : List Char} (hp : p ∈ wordPieces cs) :
    (∀ c ∈ p, isBlank c = true → c = '\u202F') ∨ AllBlank p ∨
      ∃ b m r, p = b ++ m :: r ∧ LedByBlanks b m r := by
  obtain ⟨front, q, rest, hmarks, -, hstay, rfl⟩ := exists_of_mem_piecesAfter hp
  have hof : ∀ x ∈ q, x.OfText := by
    intro x hx
    have hmem : x ∈ marksBehind false cs := by
      rw [hmarks]
      exact List.mem_append_left rest (List.mem_append_right front hx)
    exact ofText_of_mem_marksBehind hmem
  refine blanks_of_stretch hof hstay ?_
  rintro front' x y rest' rfl hy
  have hsplit : marksBehind false cs = (front ++ front') ++ x :: y :: (rest' ++ rest) := by
    rw [hmarks]
    simp only [List.append_assoc, List.cons_append]
  exact joiner_of_joinedPictograph hsplit hy

end Proximity.Text
