import Proximity.Analysis.Standard
import Proximity.Proofs.Text.Lowercase
import Proximity.Proofs.Text.WordBreak
import Proximity.Proofs.Text.Words

/-! The terms of the named analyzers. The standard analyzer keeps some of the pieces between word boundaries and
writes those with a capital in lower case. A kept piece with a titlecase letter and no capital stays as it is, and
a piece is measured before it is written in lower case, which may take more octets.

* `lowercased_terms_iff`: when the terms are the kept pieces in lower case.
* `octets_of_terms`: how long terms are, and when no term is over the limit.
* `blanks_of_terms`: which blanks stand in terms, and where. -/
namespace Proximity.Analysis
set_option autoImplicit false

/-! ## Kept pieces -/

/-- The pieces of a text between its word boundaries that have a letter or a number and at most 255 octets. -/
def keptPieces (text : String) : List String :=
  ((Text.wordPieces text.toList).map String.ofList).filter fun p =>
    p.toList.any Text.isAlphanumeric && p.utf8ByteSize ≤ 255

/-- The term of a kept piece. -/
def termOf (p : String) : String := String.ofList (normalized p.toList)

theorem standardTerms_eq (text : String) : standardTerms text = (keptPieces text).map termOf := by
  unfold standardTerms keptPieces
  rw [List.filter_map, List.map_map]
  have hterm : termOf ∘ String.ofList = fun p => String.ofList (normalized p) := by
    funext p
    rw [Function.comp_apply, termOf, String.toList_ofList]
  rw [hterm]
  congr 2
  funext p
  rw [Function.comp_apply, String.toList_ofList]
  rfl

theorem exists_of_mem_keptPieces {text p : String} (h : p ∈ keptPieces text) :
    p.toList ∈ Text.wordPieces text.toList ∧ (∃ c ∈ p.toList, Text.isAlphanumeric c = true) ∧
      p.utf8ByteSize ≤ 255 := by
  obtain ⟨hmem, hkept⟩ := List.mem_filter.mp h
  obtain ⟨q, hq, rfl⟩ := List.mem_map.mp hmem
  rw [Bool.and_eq_true, List.any_eq_true, decide_eq_true_eq] at hkept
  rw [String.toList_ofList] at hkept ⊢
  exact ⟨hq, hkept⟩

theorem termOf_capital {p : String} (h : ∃ c ∈ p.toList, Text.isUppercase c = true) :
    termOf p = Text.lowercased p := by
  rw [termOf, normalized, if_pos (List.any_eq_true.mpr h)]
  rfl

theorem termOf_no_capital {p : String} (h : ¬ ∃ c ∈ p.toList, Text.isUppercase c = true) : termOf p = p := by
  rw [termOf, normalized, if_neg (mt List.any_eq_true.mp h), String.ofList_toList]

/-! ## Lower case -/

theorem lowercased_lowercased (s : String) : Text.lowercased (Text.lowercased s) = Text.lowercased s := by
  rw [Text.lowercased, Text.lowercased, String.toList_ofList, Text.lowercase_lowercase]

theorem lowercased_eq_self_iff {p : String} (h : ¬ ∃ c ∈ p.toList, Text.isUppercase c = true) :
    Text.lowercased p = p ↔ ¬ ∃ c ∈ p.toList, Text.isTitlecase c = true := by
  have htext : Text.lowercased p = p ↔ Text.lowercase p.toList = p.toList := by
    rw [Text.lowercased, ← String.toList_inj, String.toList_ofList]
  rw [htext, Text.lowercase_eq_self_iff]
  constructor
  · rintro hsmall ⟨c, hc, htitle⟩
    exact Text.not_isSmall_of_titlecase htitle (hsmall c hc)
  · intro htitle c hc
    refine Text.isSmall_of_not_capital ?_ ?_
    · exact Bool.eq_false_of_not_eq_true fun hcapital => h ⟨c, hc, hcapital⟩
    · exact Bool.eq_false_of_not_eq_true fun htitled => htitle ⟨c, hc, htitled⟩

/-- A piece that has a titlecase letter has a capital, too. -/
def TitledWithCapital (p : String) : Prop :=
  (∃ c ∈ p.toList, Text.isTitlecase c = true) → ∃ c ∈ p.toList, Text.isUppercase c = true

theorem termOf_eq_lowercased_iff (p : String) : termOf p = Text.lowercased p ↔ TitledWithCapital p := by
  by_cases h : ∃ c ∈ p.toList, Text.isUppercase c = true
  · exact iff_of_true (termOf_capital h) fun _ => h
  · rw [termOf_no_capital h, eq_comm, lowercased_eq_self_iff h]
    exact ⟨fun htitle hc => absurd hc htitle, fun htitled hc => h (htitled hc)⟩

theorem lowercased_termOf_iff (p : String) : Text.lowercased (termOf p) = termOf p ↔ TitledWithCapital p := by
  rw [← termOf_eq_lowercased_iff]
  by_cases h : ∃ c ∈ p.toList, Text.isUppercase c = true
  · rw [termOf_capital h]
    exact iff_of_true (lowercased_lowercased p) rfl
  · rw [termOf_no_capital h, eq_comm]

/-- The terms are the kept pieces in lower case, and none of them changes in lower case again, exactly if no kept
piece has a titlecase letter without a capital. -/
theorem lowercased_terms_iff (text : String) :
    (standardTerms text = (keptPieces text).map Text.lowercased ↔ ∀ p ∈ keptPieces text, TitledWithCapital p) ∧
      ((∀ t ∈ standardTerms text, Text.lowercased t = t) ↔ ∀ p ∈ keptPieces text, TitledWithCapital p) := by
  rw [standardTerms_eq, List.map_inj_left, List.forall_mem_map]
  exact ⟨forall₂_congr fun p _ => termOf_eq_lowercased_iff p, forall₂_congr fun p _ => lowercased_termOf_iff p⟩

/-- A word that begins with a titlecase digraph stays as it is. -/
theorem lowercased_terms_digraph :
    standardTerms "\u01C5ungla" = ["\u01C5ungla"] ∧
      (keptPieces "\u01C5ungla").map Text.lowercased = ["\u01C6ungla"] ∧
      standardTerms "\u01C5ungla" ≠ (keptPieces "\u01C5ungla").map Text.lowercased := by
  decide +kernel

/-! ## Octets -/

theorem utf8ByteSize_lowercased_le (p : String) :
    (Text.lowercased p).utf8ByteSize ≤ p.utf8ByteSize + p.toList.countP (· ∈ Text.growing) := by
  have hp : p.utf8ByteSize = String.utf8Len p.toList := by rw [← String.utf8ByteSize_ofList, String.ofList_toList]
  rw [Text.lowercased, String.utf8ByteSize_ofList, Text.utf8Len_lowercase, hp]
  exact Text.sum_smallOctets_le p.toList

theorem two_mul_utf8ByteSize_lowercased_le (p : String) :
    2 * (Text.lowercased p).utf8ByteSize ≤ 3 * p.utf8ByteSize := by
  have hlower := utf8ByteSize_lowercased_le p
  have hgrowing := Text.two_mul_countP_growing_le p.toList
  rw [← String.utf8ByteSize_ofList, String.ofList_toList] at hgrowing
  omega

theorem countP_growing_eq_zero {p : String} (h : ¬ ∃ c ∈ p.toList, Text.isUppercase c = true) :
    p.toList.countP (· ∈ Text.growing) = 0 := by
  refine List.countP_eq_zero.mpr fun c hc hgrows => h ⟨c, hc, ?_⟩
  exact Text.isUppercase_of_mem_growing (of_decide_eq_true hgrows)

theorem termOf_ne_empty {p : String} (h : p.toList ≠ []) : termOf p ≠ "" := by
  by_cases hcapital : ∃ c ∈ p.toList, Text.isUppercase c = true
  · rw [termOf_capital hcapital, Text.lowercased, Ne, String.ofList_eq_empty_iff]
    exact Text.lowercaseAfter_ne_nil [] h
  · rw [termOf_no_capital hcapital]
    exact mt String.toList_eq_nil_iff.mpr h

theorem octets_of_termOf {p : String} (h : p.utf8ByteSize ≤ 255) :
    (termOf p).utf8ByteSize ≤ 382 ∧
      ((termOf p).utf8ByteSize ≤ 255 ↔ (Text.lowercased p).utf8ByteSize ≤ 255) := by
  by_cases hcapital : ∃ c ∈ p.toList, Text.isUppercase c = true
  · have hhalf := two_mul_utf8ByteSize_lowercased_le p
    rw [termOf_capital hcapital]
    exact ⟨by omega, Iff.rfl⟩
  · -- without a capital no letter grows: lower case of the piece is no longer than the piece
    have hlower := utf8ByteSize_lowercased_le p
    rw [countP_growing_eq_zero hcapital] at hlower
    rw [termOf_no_capital hcapital]
    exact ⟨by omega, iff_of_true h (by omega)⟩

/-- Terms are not empty. Words between blanks keep the limit of 255 octets; a word in lower case has at most 382, and
all words keep the limit exactly if the kept pieces keep it in lower case. -/
theorem octets_of_terms (field text : String) :
    (∃ terms, whitespace field text = .ok terms ∧ ∀ t ∈ terms, t ≠ "" ∧ t.utf8ByteSize ≤ 255) ∧
      ∃ terms, standard field text = .ok terms ∧ (∀ t ∈ terms, t ≠ "" ∧ t.utf8ByteSize ≤ 382) ∧
        ((∀ t ∈ terms, t.utf8ByteSize ≤ 255) ↔
          ∀ p ∈ keptPieces text, (Text.lowercased p).utf8ByteSize ≤ 255) := by
  refine ⟨⟨whitespaceTerms text, rfl, ?_⟩, standardTerms text, rfl, ?_⟩
  · intro t ht
    obtain ⟨hmem, hfits⟩ := List.mem_filter.mp ht
    obtain ⟨w, hw, rfl⟩ := List.mem_map.mp hmem
    exact ⟨mt String.ofList_eq_empty_iff.mp (Text.isWord_of_mem_words hw).1, of_decide_eq_true hfits⟩
  · have hoctets : ∀ p ∈ keptPieces text, _ := fun p hp => octets_of_termOf (exists_of_mem_keptPieces hp).2.2
    rw [standardTerms_eq, List.forall_mem_map, List.forall_mem_map]
    refine ⟨fun p hp => ⟨?_, (hoctets p hp).1⟩, forall₂_congr fun p hp => (hoctets p hp).2⟩
    exact termOf_ne_empty (Text.ne_nil_of_mem_wordPieces (exists_of_mem_keptPieces hp).1)

/-- 127 letters of two octets. -/
def dottedWord : String := String.ofList (List.replicate 127 '\u0130')

theorem toList_dottedWord : dottedWord.toList = List.replicate 127 '\u0130' := String.toList_ofList

theorem mem_dottedWord : '\u0130' ∈ dottedWord.toList := by
  rw [toList_dottedWord]
  exact List.mem_replicate.mpr ⟨Nat.succ_ne_zero 126, rfl⟩

theorem keptPieces_dottedWord : keptPieces dottedWord = [dottedWord] := by
  have hletters : ∀ c ∈ dottedWord.toList, Text.WordClass.ofChar c = .letter := by
    intro c hc
    rw [toList_dottedWord] at hc
    rw [List.eq_of_mem_replicate hc]
    decide
  have halpha : dottedWord.toList.any Text.isAlphanumeric = true :=
    List.any_eq_true.mpr ⟨'\u0130', mem_dottedWord, by decide⟩
  have hlen : String.utf8Len (List.replicate 127 '\u0130') = 254 := by decide +kernel
  have hoctets : dottedWord.utf8ByteSize = 254 := (String.utf8ByteSize_ofList _).trans hlen
  unfold keptPieces
  rw [Text.wordPieces_letters (List.ne_nil_of_mem mem_dottedWord) hletters, List.map_singleton, String.ofList_toList]
  exact List.filter_cons_of_pos (Bool.and_eq_true_iff.mpr ⟨halpha, decide_eq_true (by omega)⟩)

/-- A word of 254 octets becomes a term of 381. -/
theorem octets_of_terms_dotted :
    (standardTerms dottedWord).map String.utf8ByteSize = [381] ∧
      ¬ ∀ t ∈ standardTerms dottedWord, t.utf8ByteSize ≤ 255 := by
  have hcapital : ∃ c ∈ dottedWord.toList, Text.isUppercase c = true := ⟨'\u0130', mem_dottedWord, by decide⟩
  have hterms : standardTerms dottedWord = [Text.lowercased dottedWord] := by
    rw [standardTerms_eq, keptPieces_dottedWord, List.map_singleton, termOf_capital hcapital]
  have hoctets : (Text.lowercased dottedWord).utf8ByteSize = 381 := by
    rw [Text.lowercased, String.utf8ByteSize_ofList, Text.utf8Len_lowercase, toList_dottedWord, List.map_replicate,
      List.sum_replicate]
    decide
  rw [hterms, List.map_singleton, List.forall_mem_singleton, hoctets]
  decide

/-! ## Blanks -/

theorem mem_of_isBlank_normalized {cs : List Char} {c : Char} (hc : c ∈ normalized cs)
    (hblank : Text.isBlank c = true) : c ∈ cs := by
  unfold normalized at hc
  split at hc
  · exact Text.mem_of_isBlank_of_mem_lowercaseAfter hblank hc
  · exact hc

theorem attached_apart_capitals :
    Text.tablesApart Text.attachedRanges ((Text.uppercase ++ Text.titlecase).map fun u => (u.1, u.2.1)) = true := by
  decide +kernel

/-- What attaches to the character before it has no small letter of its own. -/
theorem isSmall_of_isAttached {c : Char} (h : (Text.WordClass.ofChar c).isAttached = true) : Text.IsSmall c := by
  obtain ⟨e, he, hn⟩ := Text.exists_of_isAttached h
  have hcapitals : ∀ u ∈ Text.uppercase ++ Text.titlecase, ¬ Text.InRun u c.toNat := by
    intro u hu hin
    exact Text.not_in_both attached_apart_capitals he (List.mem_map_of_mem hu) hn ⟨hin.low, hin.high⟩
  apply Text.isSmall_of_not_capital
  · by_contra hne
    obtain ⟨u, hu, hin⟩ := Text.exists_of_inRuns (Bool.eq_true_of_not_eq_false hne)
    exact hcapitals u (List.mem_append_left _ hu) hin
  · by_contra hne
    obtain ⟨u, hu, hin⟩ := Text.exists_of_inRuns (Bool.eq_true_of_not_eq_false hne)
    exact hcapitals u (List.mem_append_right _ hu) hin

/-- The term of a piece keeps the blanks that lead it and the character that attaches to them. -/
theorem normalized_of_ledByBlanks {b r : List Char} {m : Char} (h : Text.LedByBlanks b m r) :
    ∃ r', normalized (b ++ m :: r) = b ++ m :: r' ∧ Text.LedByBlanks b m r' := by
  unfold normalized
  split
  · have hsmall : ∀ c ∈ b ++ [m], Text.IsSmall c := by
      rw [List.forall_mem_append, List.forall_mem_singleton]
      exact ⟨fun c hc => Text.isSmall_of_isBlank (h.blank c hc), isSmall_of_isAttached h.attached⟩
    obtain ⟨hm, hr⟩ := List.forall_mem_cons.mp h.free
    refine ⟨Text.lowercaseAfter ((b ++ [m]).reverse ++ []) r, ?_, h.ne_nil, h.blank, h.line, h.attached, ?_⟩
    · have happend := Text.lowercaseAfter_append hsmall [] r
      rwa [List.append_assoc, List.append_assoc] at happend
    · refine List.forall_mem_cons.mpr ⟨hm, fun c hc => ?_⟩
      by_contra hne
      have hblank := Bool.eq_true_of_not_eq_false hne
      exact hne (hr c (Text.mem_of_isBlank_of_mem_lowercaseAfter hblank hc))
  · exact ⟨r, rfl, h⟩

theorem blanks_apart_alphanumeric :
    Text.tablesApart Text.blank Text.alphabetic = true ∧ Text.tablesApart Text.blank Text.numbers = true := by
  decide +kernel

theorem not_isAlphanumeric_of_isBlank {c : Char} (h : Text.isBlank c = true) : Text.isAlphanumeric c = false := by
  have hletters := Text.inRanges_eq_false_of_apart blanks_apart_alphanumeric.1 h
  have hnumbers := Text.inRanges_eq_false_of_apart blanks_apart_alphanumeric.2 h
  rw [Text.isAlphanumeric, hletters, hnumbers]
  rfl

theorem blanks_of_termOf {text p : String} (hp : p ∈ keptPieces text) :
    (∀ c ∈ (termOf p).toList, Text.isBlank c = true → c = '\u202F') ∨
      ∃ b m r, (termOf p).toList = b ++ m :: r ∧ Text.LedByBlanks b m r ∧ b ++ [m] <:+: text.toList := by
  obtain ⟨hpiece, ⟨a, ha, halpha⟩, -⟩ := exists_of_mem_keptPieces hp
  rw [termOf, String.toList_ofList]
  rcases Text.blanks_of_piece hpiece with hnarrow | hblank | ⟨b, m, r, hsplit, hled⟩
  · exact .inl fun c hc hblank => hnarrow c (mem_of_isBlank_normalized hc hblank) hblank
  · -- a piece of blanks only is not kept
    exact Bool.noConfusion (halpha.symm.trans (not_isAlphanumeric_of_isBlank (hblank a ha)))
  · obtain ⟨r', hterm, hled'⟩ := normalized_of_ledByBlanks hled
    have hinfix : b ++ [m] <:+: text.toList := by
      have hprefix : b ++ [m] <+: p.toList := by
        rw [hsplit]
        exact ⟨r, by rw [List.append_assoc]; rfl⟩
      exact hprefix.isInfix.trans (Text.infix_of_mem_wordPieces hpiece)
    rw [hsplit]
    exact .inr ⟨b, m, r', hterm, hled', hinfix⟩

/-- The last of the blanks that lead a word, and what attaches to it. -/
theorem exists_pair_of_ledByBlanks {text b r : List Char} {m : Char} (h : Text.LedByBlanks b m r)
    (hplace : b ++ [m] <:+: text) : ∃ c, [c, m] <:+: text ∧ Text.isBlank c = true := by
  obtain ⟨b', c, rfl⟩ := (List.eq_nil_or_concat' b).resolve_left h.ne_nil
  refine ⟨c, ?_, h.blank c (List.mem_append_right b' (List.mem_singleton_self c))⟩
  rw [List.append_assoc] at hplace
  exact (List.suffix_append b' [c, m]).isInfix.trans hplace

theorem mem_text_of_isBlank {text p : String} (hp : p ∈ keptPieces text) {c : Char} (hc : c ∈ (termOf p).toList)
    (hblank : Text.isBlank c = true) : c ∈ text.toList := by
  rw [termOf, String.toList_ofList] at hc
  have hpiece := (exists_of_mem_keptPieces hp).1
  exact (Text.infix_of_mem_wordPieces hpiece).subset (mem_of_isBlank_normalized hc hblank)

/-- The only blanks in a term are narrow no-break spaces, or they lead it and the character behind them attaches to
them, in the term as in the text. Where neither is in the text, no blank is in a term. -/
theorem blanks_of_terms (text : String) :
    (∀ t ∈ standardTerms text,
      (∀ c ∈ t.toList, Text.isBlank c = true → c = '\u202F') ∨
        ∃ b m r, t.toList = b ++ m :: r ∧ Text.LedByBlanks b m r ∧ b ++ [m] <:+: text.toList) ∧
      ('\u202F' ∉ text.toList →
        (∀ c m, [c, m] <:+: text.toList → Text.isBlank c = true →
          (Text.WordClass.ofChar m).isAttached = false) →
        ∀ t ∈ standardTerms text, ∀ c ∈ t.toList, Text.isBlank c = false) := by
  rw [standardTerms_eq, List.forall_mem_map, List.forall_mem_map]
  refine ⟨fun p hp => blanks_of_termOf hp, fun hnarrow hpairs p hp c hc => ?_⟩
  by_contra hne
  have hblank := Bool.eq_true_of_not_eq_false hne
  rcases blanks_of_termOf hp with hall | ⟨b, m, r, -, hled, hplace⟩
  · have hmem := mem_text_of_isBlank hp hc hblank
    rw [hall c hc hblank] at hmem
    exact hnarrow hmem
  · obtain ⟨c', hpair, hblank'⟩ := exists_pair_of_ledByBlanks hled hplace
    exact Bool.noConfusion (hled.attached.symm.trans (hpairs c' m hpair hblank'))

/-- A term with a narrow no-break space inside, and one with a space in front of a combining mark. -/
theorem blanks_of_terms_kept :
    (∃ t ∈ standardTerms "fox\u202Fdog", t.toList.any Text.isBlank = true) ∧
      ∃ t ∈ standardTerms " \u0345", t.toList.any Text.isBlank = true := by
  decide +kernel

end Proximity.Analysis
