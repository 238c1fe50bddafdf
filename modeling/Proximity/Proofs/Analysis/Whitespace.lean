import Mathlib
import Proximity.Analysis.Standard
import Proximity.Proofs.Text.Words

/-! Words between blanks. A blank between two texts separates their runs of other characters just as it separates
their words, so the words of a text are its maximal runs, each one once and in order.

* `Text.RunAt`: a maximal run of characters that are not blank, at its place in a text.
* `Text.runAt_append_cons`: the runs of two texts with a blank between them.
* `Text.exists_allRuns`: the words of a text are its runs.
* `Analysis.terms_of_runs`: the same of the terms, where runs over the limit are left out. -/
namespace Proximity
set_option autoImplicit false

namespace Text

/-! ## Runs -/

/-- A word that begins behind `start` characters of a text, with a blank or an end of the text on either side. -/
structure RunAt (cs : List Char) (start : ℕ) (w : List Char) : Prop where
  word : IsWord w
  place : ∃ before after, cs = before ++ w ++ after ∧ before.length = start ∧
    (∀ c ∈ before.getLast?, isBlank c = true) ∧ ∀ c ∈ after.head?, isBlank c = true

section
variable {a b cs w : List Char} {c : Char} {start : ℕ}

theorem RunAt.end_le (h : RunAt cs start w) : start + w.length ≤ cs.length := by
  obtain ⟨before, after, rfl, rfl, -, -⟩ := h.place
  simp only [List.length_append]
  omega

theorem RunAt.start_lt (h : RunAt cs start w) : start < cs.length := by
  have hpos := List.length_pos_of_ne_nil h.word.1
  have hend := h.end_le
  omega

theorem runAt_of_free (hfree : ∀ c ∈ cs, isBlank c = false) : RunAt cs start w ↔ cs ≠ [] ∧ start = 0 ∧ w = cs := by
  constructor
  · rintro ⟨hword, before, after, rfl, rfl, hbefore, hafter⟩
    have hnoblank : ∀ c ∈ before ++ w ++ after, ¬ isBlank c = true := fun c hc => by
      rw [hfree c hc]
      exact Bool.false_ne_true
    have hfront : before = [] := by
      rcases List.eq_nil_or_concat' before with rfl | ⟨l, c, rfl⟩
      · rfl
      · exact absurd (hbefore c List.getLast?_concat) (hnoblank c (by simp))
    have hback : after = [] := by
      cases after with
      | nil => rfl
      | cons c l => exact absurd (hafter c rfl) (hnoblank c (by simp))
    subst hfront hback
    simpa using hword.1
  · rintro ⟨hne, rfl, rfl⟩
    exact ⟨⟨hne, hfree⟩, [], [], by simp, rfl, nofun, nofun⟩

theorem RunAt.append_cons (h : RunAt a start w) (hc : isBlank c = true) (b : List Char) :
    RunAt (a ++ c :: b) start w := by
  obtain ⟨hword, before, after, rfl, hstart, hbefore, hafter⟩ := h
  refine ⟨hword, before, after ++ c :: b, by simp, hstart, hbefore, ?_⟩
  cases after with
  | nil => exact fun x hx => Option.some.inj hx ▸ hc
  | cons x l => exact hafter

theorem RunAt.cons_append (h : RunAt b start w) (hc : isBlank c = true) (a : List Char) :
    RunAt (a ++ c :: b) (a.length + 1 + start) w := by
  obtain ⟨hword, before, after, rfl, rfl, hbefore, hafter⟩ := h
  refine ⟨hword, a ++ c :: before, after, by simp, by simp; omega, ?_, hafter⟩
  rw [List.getLast?_append_cons, List.getLast?_cons]
  cases hlast : before.getLast? with
  | none => exact fun x hx => Option.some.inj hx ▸ hc
  | some l => exact fun x hx => Option.some.inj hx ▸ hbefore l hlast

/-- A character that is not in the middle of three parts is in the first or in the last. -/
theorem parts_of_notMem {before after : List Char} (hc : c ∉ w) (h : a ++ c :: b = before ++ w ++ after) :
    (∃ l, a = before ++ w ++ l ∧ after = l ++ c :: b) ∨ ∃ l, before = a ++ c :: l ∧ b = l ++ w ++ after := by
  rcases List.append_eq_append_iff.mp h with ⟨l, hfront, hback⟩ | ⟨l, hfront, hback⟩
  · rcases List.cons_eq_append_iff.mp hback with ⟨rfl, rfl⟩ | ⟨l, rfl, rfl⟩
    · exact .inl ⟨[], by rw [hfront, List.append_nil, List.append_nil], rfl⟩
    · rcases List.append_eq_append_iff.mp hfront with ⟨m, rfl, rfl⟩ | ⟨m, rfl, hmiddle⟩
      · exact absurd (List.mem_append_right m (List.mem_cons_self ..)) hc
      · rcases List.cons_eq_append_iff.mp hmiddle with ⟨rfl, rfl⟩ | ⟨m, rfl, rfl⟩
        · exact absurd (List.mem_cons_self ..) hc
        · exact .inr ⟨m, rfl, rfl⟩
  · exact .inl ⟨l, hfront, hback⟩

/-- A blank between two texts divides the runs into those of the one and those of the other. -/
theorem runAt_append_cons (a b : List Char) (hc : isBlank c = true) :
    RunAt (a ++ c :: b) start w ↔ RunAt a start w ∨ ∃ i, start = a.length + 1 + i ∧ RunAt b i w := by
  constructor
  · rintro ⟨hword, before, after, htext, rfl, hbefore, hafter⟩
    have hnotin : c ∉ w := fun hmem => Bool.noConfusion (hc.symm.trans (hword.2 c hmem))
    rcases parts_of_notMem hnotin htext with ⟨l, rfl, rfl⟩ | ⟨l, rfl, rfl⟩
    · refine .inl ⟨hword, before, l, rfl, rfl, hbefore, fun x hx => hafter x ?_⟩
      rw [Option.mem_def] at hx ⊢
      rw [List.head?_append, hx, Option.some_or]
    · refine .inr ⟨l.length, ?_, hword, l, after, rfl, rfl, fun x hx => hbefore x ?_, hafter⟩
      · simp only [List.length_append, List.length_cons]
        omega
      · rw [Option.mem_def] at hx ⊢
        rw [List.getLast?_append_cons, List.getLast?_cons, hx, Option.getD_some]
  · rintro (h | ⟨i, rfl, h⟩)
    · exact h.append_cons hc b
    · exact h.cons_append hc a

end

/-! ## Words as runs -/

/-- Every text is put together from texts without blanks by writing blanks between them. -/
theorem blank_induction {P : List Char → Prop} (free : ∀ cs, (∀ c ∈ cs, isBlank c = false) → P cs)
    (append : ∀ a b c, isBlank c = true → P a → P b → P (a ++ c :: b)) (cs : List Char) : P cs := by
  -- the characters in front of the next blank are collected in `a`
  have hcollect : ∀ a, (∀ c ∈ a, isBlank c = false) → P (a ++ cs) := by
    induction cs with
    | nil =>
      intro a ha
      rw [List.append_nil]
      exact free a ha
    | cons c cs ih =>
      intro a ha
      by_cases hc : isBlank c = true
      · exact append a cs c hc (free a ha) (ih [] (List.forall_mem_nil _))
      · rw [List.append_cons]
        refine ih (a ++ [c]) ?_
        rw [List.forall_mem_append, List.forall_mem_singleton]
        exact ⟨ha, Bool.eq_false_of_not_eq_true hc⟩
  exact hcollect [] (List.forall_mem_nil _)

/-- All runs of a text with their places, in order. -/
structure AllRuns (cs : List Char) (runs : List (ℕ × List Char)) : Prop where
  ordered : runs.Pairwise fun p q => p.1 < q.1
  mem_iff : ∀ p, p ∈ runs ↔ RunAt cs p.1 p.2
  words : runs.map Prod.snd = words cs

theorem allRuns_of_free {cs : List Char} (hfree : ∀ c ∈ cs, isBlank c = false) : ∃ runs, AllRuns cs runs := by
  by_cases hne : cs = []
  · refine ⟨[], List.Pairwise.nil, fun p => ?_, by rw [hne]; rfl⟩
    rw [runAt_of_free hfree]
    exact iff_of_false List.not_mem_nil fun h => h.1 hne
  · refine ⟨[(0, cs)], List.pairwise_singleton _ _, fun p => ?_, (words_word ⟨hne, hfree⟩).symm⟩
    rw [runAt_of_free hfree, List.mem_singleton, Prod.ext_iff]
    exact (and_iff_right hne).symm

theorem AllRuns.append {a b : List Char} {c : Char} {runs runs' : List (ℕ × List Char)} (hc : isBlank c = true)
    (ha : AllRuns a runs) (hb : AllRuns b runs') :
    AllRuns (a ++ c :: b) (runs ++ runs'.map fun p => (a.length + 1 + p.1, p.2)) where
  ordered := by
    rw [List.pairwise_append, List.pairwise_map]
    refine ⟨ha.ordered, hb.ordered.imp fun hlt => Nat.add_lt_add_left hlt _, fun p hp q hq => ?_⟩
    obtain ⟨q, -, rfl⟩ := List.mem_map.mp hq
    have hstart := ((ha.mem_iff p).mp hp).start_lt
    change p.1 < a.length + 1 + q.1
    omega
  mem_iff := by
    rintro ⟨start, w⟩
    rw [List.mem_append, List.mem_map, ha.mem_iff, runAt_append_cons a b hc]
    refine or_congr Iff.rfl ⟨?_, ?_⟩
    · rintro ⟨q, hq, heq⟩
      obtain ⟨rfl, rfl⟩ := Prod.mk.inj heq
      exact ⟨q.1, rfl, (hb.mem_iff q).mp hq⟩
    · rintro ⟨i, rfl, hrun⟩
      exact ⟨(i, w), (hb.mem_iff _).mpr hrun, rfl⟩
  words := by
    rw [List.map_append, List.map_map, ha.words, words_append_cons a b hc, ← hb.words]
    rfl

theorem exists_allRuns (cs : List Char) : ∃ runs, AllRuns cs runs := by
  induction cs using blank_induction with
  | free cs hfree => exact allRuns_of_free hfree
  | append a b c hc iha ihb =>
    obtain ⟨runs, ha⟩ := iha
    obtain ⟨runs', hb⟩ := ihb
    exact ⟨_, ha.append hc hb⟩

end Text

/-! ## Tokens and blanks -/

/-- A term that an analyzer which cuts at blanks gives back: not empty, unbroken and not too long. -/
structure IsToken (t : String) : Prop where
  word : Text.IsWord t.toList
  short : t.utf8ByteSize ≤ 255

instance (t : String) : Decidable (IsToken t) :=
  decidable_of_iff (Text.IsWord t.toList ∧ t.utf8ByteSize ≤ 255)
    ⟨fun h => ⟨h.1, h.2⟩, fun h => ⟨h.1, h.2⟩⟩

def spaced (ts : List String) : String := " ".intercalate ts

theorem words_toList {ts : List String} (h : ∀ t ∈ ts, IsToken t) :
    ∀ w ∈ ts.map String.toList, Text.IsWord w := by
  intro w hw
  obtain ⟨t, ht, rfl⟩ := List.mem_map.mp hw
  exact (h t ht).word

theorem toList_spaced (ts : List String) : (spaced ts).toList = [' '].intercalate (ts.map String.toList) :=
  String.toList_intercalate

theorem whitespaceTerms_spaced {ts : List String} (h : ∀ t ∈ ts, IsToken t) :
    Analysis.whitespaceTerms (spaced ts) = ts := by
  have hstrings : Analysis.blankSeparated (spaced ts) = ts := by
    rw [Analysis.blankSeparated, toList_spaced, Text.words_intercalate (words_toList h), List.map_map]
    exact (List.map_congr_left fun t _ => String.ofList_toList).trans (List.map_id ts)
  rw [Analysis.whitespaceTerms, hstrings]
  exact List.filter_eq_self.mpr fun t ht => decide_eq_true (h t ht).short

theorem bare_spaced {ts : List String} (h : ∀ t ∈ ts, IsToken t) (hne : ts ≠ []) :
    Text.Bare (spaced ts).toList ∧ (spaced ts).toList ≠ [] := by
  rw [toList_spaced]
  exact Text.bare_intercalate (words_toList h) (mt List.map_eq_nil_iff.mp hne)

namespace Analysis

/-! ## Terms -/

theorem isToken_of_mem_whitespaceTerms {text t : String} (h : t ∈ whitespaceTerms text) : IsToken t := by
  obtain ⟨hmem, hfits⟩ := List.mem_filter.mp h
  obtain ⟨w, hw, rfl⟩ := List.mem_map.mp hmem
  exact ⟨String.toList_ofList.symm ▸ Text.isWord_of_mem_words hw, of_decide_eq_true hfits⟩

theorem whitespaceTerms_append (a b : String) {c : Char} (hc : Text.isBlank c = true) :
    whitespaceTerms (a ++ String.singleton c ++ b) = whitespaceTerms a ++ whitespaceTerms b := by
  have htext : (a ++ String.singleton c ++ b).toList = a.toList ++ c :: b.toList := by simp
  rw [whitespaceTerms, blankSeparated, htext, Text.words_append_cons _ _ hc, List.map_append, List.filter_append]
  rfl

/-- The terms of a text are its runs of at most 255 octets, each with its place. -/
theorem exists_runs (text : String) : ∃ runs : List (ℕ × String),
    runs.Pairwise (fun p q => p.1 < q.1) ∧
      (∀ p, p ∈ runs ↔ Text.RunAt text.toList p.1 p.2.toList ∧ p.2.utf8ByteSize ≤ 255) ∧
      runs.map Prod.snd = whitespaceTerms text := by
  obtain ⟨runs, hruns⟩ := Text.exists_allRuns text.toList
  refine ⟨(runs.map (Prod.map id String.ofList)).filter (fits ∘ Prod.snd), ?_, ?_, ?_⟩
  · refine List.Pairwise.filter _ ?_
    rw [List.pairwise_map]
    exact hruns.ordered
  · rintro ⟨start, t⟩
    rw [List.mem_filter, List.mem_map]
    constructor
    · rintro ⟨⟨q, hq, heq⟩, hfits⟩
      obtain ⟨rfl, rfl⟩ := Prod.mk.inj heq
      rw [String.toList_ofList]
      exact ⟨(hruns.mem_iff q).mp hq, of_decide_eq_true hfits⟩
    · rintro ⟨hrun, hshort⟩
      refine ⟨⟨(start, t.toList), (hruns.mem_iff _).mpr hrun, ?_⟩, decide_eq_true hshort⟩
      rw [Prod.map_apply, String.ofList_toList, id]
  · rw [whitespaceTerms, blankSeparated, ← hruns.words, ← List.filter_map, List.map_map, List.map_map]
    rfl

/-- A blank between two texts separates their terms. The terms of a text are its maximal runs of other characters, each
one of at most 255 octets once and in order, and they are read back from single blanks between them. -/
theorem terms_of_runs (field : String) :
    (∀ (a b : String) (c : Char), Text.isBlank c = true → ∃ as bs, whitespace field a = .ok as ∧
      whitespace field b = .ok bs ∧ whitespace field (a ++ String.singleton c ++ b) = .ok (as ++ bs)) ∧
    ∀ text : String, ∃ runs : List (ℕ × String),
      runs.Pairwise (fun p q => p.1 < q.1) ∧
      (∀ p, p ∈ runs ↔ Text.RunAt text.toList p.1 p.2.toList ∧ p.2.utf8ByteSize ≤ 255) ∧
      whitespace field text = .ok (runs.map Prod.snd) ∧
      whitespace field (" ".intercalate (runs.map Prod.snd)) = .ok (runs.map Prod.snd) := by
  refine ⟨fun a b c hc => ?_, fun text => ?_⟩
  · exact ⟨_, _, rfl, rfl, congrArg Except.ok (whitespaceTerms_append a b hc)⟩
  · obtain ⟨runs, hordered, hmem, hterms⟩ := exists_runs text
    refine ⟨runs, hordered, hmem, congrArg Except.ok hterms.symm, congrArg Except.ok ?_⟩
    rw [hterms]
    exact whitespaceTerms_spaced fun t ht => isToken_of_mem_whitespaceTerms ht

/-- An ideographic space between two texts with blanks of their own at the ends. -/
theorem terms_of_runs_ideographic :
    Text.isBlank '\u3000' = true ∧ whitespace "title" " Fox\u00A0b " = .ok ["Fox", "b"] ∧
      whitespace "title" "\t\u2029DOG\u0085" = .ok ["DOG"] ∧
      whitespace "title" (" Fox\u00A0b " ++ String.singleton '\u3000' ++ "\t\u2029DOG\u0085") =
        .ok ["Fox", "b", "DOG"] := by
  have hblank : Text.isBlank '\u3000' = true := rfl
  have hfront : whitespace "title" " Fox\u00A0b " = .ok ["Fox", "b"] := rfl
  have hback : whitespace "title" "\t\u2029DOG\u0085" = .ok ["DOG"] := rfl
  obtain ⟨as, bs, has, hbs, happend⟩ := (terms_of_runs "title").1 " Fox\u00A0b " "\t\u2029DOG\u0085" '\u3000' hblank
  obtain rfl := Except.ok.inj (has.symm.trans hfront)
  obtain rfl := Except.ok.inj (hbs.symm.trans hback)
  exact ⟨hblank, hfront, hback, happend⟩

end Analysis

end Proximity
