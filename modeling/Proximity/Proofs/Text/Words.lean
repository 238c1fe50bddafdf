import Proximity.Proofs.Text.Trim

/-! Words of a text that is put together. A blank between two texts separates their words, and words written
with single blanks between them are read back. What stands in front of the first occurrence of a character is
found again, and so is what stands behind the last one, or behind a run of it at the front. -/
namespace Proximity.Text
set_option autoImplicit false

/-- A word: some characters, none of them blank. -/
def IsWord (w : List Char) : Prop := w ≠ [] ∧ ∀ c ∈ w, isBlank c = false

instance (w : List Char) : Decidable (IsWord w) := @instDecidableAnd _ _ inferInstance (List.decidableBAll _ w)

/-! ## Cutting -/

/-- The words behind a text stay as they are while the text is cut. -/
theorem foldr_take (a : List Char) (ws : List (List Char)) :
    a.foldr Cutting.take ⟨[], ws⟩ =
      ⟨(a.foldr Cutting.take ⟨[], []⟩).word, (a.foldr Cutting.take ⟨[], []⟩).later ++ ws⟩ := by
  induction a with
  | nil => rfl
  | cons c a ih =>
    rw [List.foldr_cons, List.foldr_cons, ih]
    unfold Cutting.take Cutting.finish
    by_cases hc : isBlank c = true
    · rw [if_pos hc, if_pos hc]
      split <;> rfl
    · rw [if_neg hc, if_neg hc]

theorem words_append_cons (a b : List Char) {c : Char} (hc : isBlank c = true) :
    words (a ++ c :: b) = words a ++ words b := by
  have hb : (c :: b).foldr Cutting.take ⟨[], []⟩ = ⟨[], words b⟩ := by
    rw [List.foldr_cons, Cutting.take, if_pos hc]
    rfl
  rw [words, words, List.foldr_append, hb, foldr_take]
  unfold Cutting.finish
  split <;> rfl

theorem isWord_of_mem_finish {s : Cutting} (hword : ∀ c ∈ s.word, isBlank c = false)
    (hlater : ∀ w ∈ s.later, IsWord w) : ∀ w ∈ s.finish, IsWord w := by
  unfold Cutting.finish
  split
  · exact hlater
  · next hne => exact List.forall_mem_cons.mpr ⟨⟨mt List.isEmpty_iff.mpr hne, hword⟩, hlater⟩

/-- A text cut up to some point: the word under way has no blank, and what is behind it are words. -/
theorem isWord_foldr_take (cs : List Char) :
    (∀ c ∈ (cs.foldr Cutting.take ⟨[], []⟩).word, isBlank c = false) ∧
      ∀ w ∈ (cs.foldr Cutting.take ⟨[], []⟩).later, IsWord w := by
  induction cs with
  | nil => exact ⟨List.forall_mem_nil _, List.forall_mem_nil _⟩
  | cons c cs ih =>
    obtain ⟨hword, hlater⟩ := ih
    rw [List.foldr_cons, Cutting.take]
    by_cases hc : isBlank c = true
    · rw [if_pos hc]
      exact ⟨List.forall_mem_nil _, isWord_of_mem_finish hword hlater⟩
    · rw [if_neg hc]
      exact ⟨List.forall_mem_cons.mpr ⟨Bool.eq_false_of_not_eq_true hc, hword⟩, hlater⟩

theorem isWord_of_mem_words {cs w : List Char} (hw : w ∈ words cs) : IsWord w :=
  isWord_of_mem_finish (isWord_foldr_take cs).1 (isWord_foldr_take cs).2 w hw

theorem foldr_take_word {w : List Char} (h : ∀ c ∈ w, isBlank c = false) :
    w.foldr Cutting.take ⟨[], []⟩ = ⟨w, []⟩ := by
  induction w with
  | nil => rfl
  | cons c w ih =>
    have hc : ¬ isBlank c = true := by rw [h c (List.mem_cons_self ..)]; exact Bool.false_ne_true
    rw [List.foldr_cons, ih (fun x hx => h x (List.mem_cons_of_mem c hx)), Cutting.take, if_neg hc]

theorem words_word {w : List Char} (h : IsWord w) : words w = [w] := by
  rw [words, foldr_take_word h.2, Cutting.finish, if_neg (mt List.isEmpty_iff.mp h.1)]

/-! ## Words with single blanks between them -/

theorem words_intercalate {ws : List (List Char)} (h : ∀ w ∈ ws, IsWord w) :
    words ([' '].intercalate ws) = ws := by
  induction ws with
  | nil => rfl
  | cons w ws ih =>
    have hw : words w = [w] := words_word (h w (List.mem_cons_self ..))
    have hws := ih (fun v hv => h v (List.mem_cons_of_mem w hv))
    cases ws with
    | nil =>
      rw [List.intercalate_singleton]
      exact hw
    | cons v ws =>
      rw [List.intercalate_cons_cons, List.append_assoc]
      change words (w ++ ' ' :: [' '].intercalate (v :: ws)) = _
      rw [words_append_cons _ _ (by decide), hw, hws]
      rfl

theorem bare_word {w : List Char} (h : IsWord w) : Bare w :=
  ⟨fun c hc => h.2 c (List.mem_of_mem_head? hc), fun c hc => h.2 c (List.mem_of_mem_getLast? hc)⟩

theorem bare_intercalate {ws : List (List Char)} (h : ∀ w ∈ ws, IsWord w) (hne : ws ≠ []) :
    Bare ([' '].intercalate ws) ∧ [' '].intercalate ws ≠ [] := by
  induction ws with
  | nil => exact absurd rfl hne
  | cons w ws ih =>
    have hw := h w (List.mem_cons_self ..)
    cases ws with
    | nil =>
      rw [List.intercalate_singleton]
      exact ⟨bare_word hw, hw.1⟩
    | cons v ws =>
      obtain ⟨hbare, hnil⟩ := ih (fun u hu => h u (List.mem_cons_of_mem w hu)) (List.cons_ne_nil v ws)
      rw [List.intercalate_cons_cons]
      exact ⟨bare_append [' '] (bare_word hw) hbare hw.1 hnil, List.append_ne_nil_of_right_ne_nil _ hnil⟩

/-! ## Up to a character -/

theorem takeWhile_ne_append {x : Char} {a : List Char} (h : x ∉ a) (b : List Char) :
    (a ++ x :: b).takeWhile (· ≠ x) = a := by
  have ha : ∀ c ∈ a, decide (c ≠ x) = true := by
    intro c hc
    exact decide_eq_true fun heq => h (heq ▸ hc)
  rw [List.takeWhile_append_of_pos ha, List.takeWhile_cons_of_neg (by simp), List.append_nil]

theorem dropWhile_ne_append {x : Char} {a : List Char} (h : x ∉ a) (b : List Char) :
    (a ++ x :: b).dropWhile (· ≠ x) = x :: b := by
  have hparts := List.takeWhile_append_dropWhile (p := (· ≠ x)) (l := a ++ x :: b)
  rw [takeWhile_ne_append h] at hparts
  exact List.append_cancel_left hparts

theorem append_cons_inj {x : Char} {a a' b b' : List Char} (ha : x ∉ a) (ha' : x ∉ a')
    (h : a ++ x :: b = a' ++ x :: b') : a = a' ∧ b = b' := by
  have hfront := congrArg (List.takeWhile (· ≠ x)) h
  rw [takeWhile_ne_append ha, takeWhile_ne_append ha'] at hfront
  subst hfront
  exact ⟨rfl, (List.cons.inj (List.append_cancel_left h)).2⟩

theorem append_cons_inj_last {x : Char} {a a' b b' : List Char} (hb : x ∉ b) (hb' : x ∉ b')
    (h : a ++ x :: b = a' ++ x :: b') : a = a' ∧ b = b' := by
  have hreverse := congrArg List.reverse h
  simp only [List.reverse_append, List.reverse_cons, List.append_assoc, List.singleton_append] at hreverse
  obtain ⟨hback, hfront⟩ := append_cons_inj (mt List.mem_reverse.mp hb) (mt List.mem_reverse.mp hb') hreverse
  exact ⟨List.reverse_injective hfront, List.reverse_injective hback⟩

theorem replicate_append_inj {m m' : ℕ} {x : Char} {cs cs' : List Char} (hcs : ∀ c ∈ cs.head?, c ≠ x)
    (hcs' : ∀ c ∈ cs'.head?, c ≠ x) (h : List.replicate m x ++ cs = List.replicate m' x ++ cs') :
    m = m' ∧ cs = cs' := by
  induction m generalizing m' with
  | zero =>
    cases m' with
    | zero => exact ⟨rfl, h⟩
    | succ m' =>
      have hhead : cs = x :: (List.replicate m' x ++ cs') := h
      exact absurd rfl (hcs x (hhead ▸ rfl))
  | succ m ih =>
    cases m' with
    | zero =>
      have hhead : x :: (List.replicate m x ++ cs) = cs' := h
      exact absurd rfl (hcs' x (hhead ▸ rfl))
    | succ m' =>
      obtain ⟨hm, heq⟩ := ih (List.cons.inj h).2
      exact ⟨congrArg (· + 1) hm, heq⟩

end Proximity.Text
