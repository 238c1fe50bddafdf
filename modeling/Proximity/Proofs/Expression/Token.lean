import Proximity.Proofs.Expression.Decomposition

/-! Reading operator tokens. On a letter with digits behind it reading fails only if the decimal value of the
digits leaves 32 bits, and written operators are read back.

* `parse_token`: which tokens are read, as what, and why the others are refused. -/
namespace Proximity
set_option autoImplicit false

/-- The decimal value of the digits behind the letter of a token. -/
def distanceOf (op : List Char) : ℕ := Nat.ofDigitChars 10 op.tail 0

/-- Whether the letter of a token keeps the order of its operands. -/
def KeepsOrder (op : List Char) : Prop := op.head? = some 'w' ∨ op.head? = some 'W'

/-! ## Letters -/

theorem exists_order {c : Char} (h : c ∈ operatorLetters) :
    ∃ o, SpanOrder.ofLetter? c = some o ∧ (o.inOrder = true ↔ c = 'w' ∨ c = 'W') := by
  simp only [operatorLetters, List.mem_cons, List.not_mem_nil, or_false] at h
  rcases h with rfl | rfl | rfl | rfl
  · exact ⟨.ordered, rfl, by decide⟩
  · exact ⟨.ordered, rfl, by decide⟩
  · exact ⟨.unordered, rfl, by decide⟩
  · exact ⟨.unordered, rfl, by decide⟩

theorem letter_mem (o : SpanOrder) : o.letter ∈ operatorLetters := by cases o <;> decide

theorem ofLetter_letter (o : SpanOrder) : SpanOrder.ofLetter? o.letter = some o := by cases o <;> rfl

/-! ## Reading a token -/

theorem parse_cons {c : Char} {ds : List Char} {o : SpanOrder} (hc : SpanOrder.ofLetter? c = some o)
    (hne : ds ≠ []) (hds : ∀ d ∈ ds, d.isDigit = true) :
    Operator.parse (String.ofList (c :: ds)) =
      if distanceOf (c :: ds) < 2 ^ 32 then .ok ⟨o, UInt32.ofNat (distanceOf (c :: ds))⟩
      else .error (.malformedAt .distanceOutOfRange (String.ofList (c :: ds))) := by
  have hempty : ds.isEmpty = false := List.isEmpty_eq_false_iff.mpr hne
  have hall : ds.all Char.isDigit = true := List.all_eq_true.mpr hds
  rw [Operator.parse, String.toList_ofList]
  simp only [hc, hempty, hall, Bool.not_true, Bool.or_false, Bool.false_eq_true, if_false, distanceLimit,
    UInt32.size]
  rfl

theorem parse_isOperator {op : List Char} (h : IsOperator op) (hd : distanceOf op < 2 ^ 32) :
    ∃ o, Operator.parse (String.ofList op) = .ok o ∧ o.distance.toNat = distanceOf op ∧
      (o.order.inOrder = true ↔ KeepsOrder op) := by
  obtain ⟨c, ds, rfl, hc, hne, hds⟩ := h
  obtain ⟨o, ho, horder⟩ := exists_order hc
  refine ⟨⟨o, UInt32.ofNat (distanceOf (c :: ds))⟩, ?_, UInt32.toNat_ofNat_of_lt' hd, ?_⟩
  · rw [parse_cons ho hne hds, if_pos hd]
  · simpa [KeepsOrder] using horder

theorem parse_isOperator_large {op : List Char} (h : IsOperator op) (hd : 2 ^ 32 ≤ distanceOf op) :
    Operator.parse (String.ofList op) = .error (.malformedAt .distanceOutOfRange (String.ofList op)) := by
  obtain ⟨c, ds, rfl, hc, hne, hds⟩ := h
  obtain ⟨o, ho, -⟩ := exists_order hc
  rw [parse_cons ho hne hds, if_neg (Nat.not_lt.mpr hd)]

theorem parse_not_isOperator {token : String} (h : ¬ IsOperator token.toList) :
    Operator.parse token = .error (.malformedAt .invalidOperator token) := by
  unfold Operator.parse
  split
  · rfl
  · next c ds hcs =>
    split
    · rfl
    · next o ho =>
      have hc : c ∈ operatorLetters := (isOperatorLetter_iff c).mp (by rw [isOperatorLetter, ho]; rfl)
      split
      · rfl
      · next hds =>
        obtain ⟨hne, hall⟩ : ds.isEmpty = false ∧ ds.all Char.isDigit = true := by simpa using hds
        exact absurd ⟨c, ds, hcs, hc, List.isEmpty_eq_false_iff.mp hne, List.all_eq_true.mp hall⟩ h

/-! ## Written operators -/

theorem toList_text (op : Operator) :
    op.text.toList = op.order.letter :: Nat.toDigits 10 op.distance.toNat := String.toList_ofList

theorem isDigit_of_mem_text (op : Operator) : ∀ d ∈ Nat.toDigits 10 op.distance.toNat, d.isDigit = true :=
  fun _ hd => Nat.isDigit_of_mem_toDigits (by decide) (by decide) hd

theorem isOperator_text (op : Operator) : IsOperator op.text.toList :=
  ⟨op.order.letter, _, toList_text op, letter_mem op.order, Nat.toDigits_ne_nil, isDigit_of_mem_text op⟩

theorem parse_text (op : Operator) : Operator.parse op.text = .ok op := by
  have hvalue : distanceOf (op.order.letter :: Nat.toDigits 10 op.distance.toNat) = op.distance.toNat :=
    Nat.ofDigitChars_ten_toDigits
  rw [Operator.text, parse_cons (ofLetter_letter op.order) Nat.toDigits_ne_nil (isDigit_of_mem_text op),
    hvalue, if_pos op.distance.toNat_lt, UInt32.ofNat_toNat]

theorem text_eq (op : Operator) : op.text = op.order.keyword ++ toString op.distance := by
  apply String.toList_injective
  rw [toList_text, String.toList_append]
  change _ = (String.ofList [op.order.letter]).toList ++ (String.ofList (Nat.toDigits 10 op.distance.toNat)).toList
  rw [String.toList_ofList, String.toList_ofList, List.singleton_append]

/-! ## All tokens -/

theorem message_invalidOperator :
    Mistake.invalidOperator.message = "invalid operator syntax" ++ ("; " ++ proximityUsage) := by decide

theorem inOrder_iff (o : SpanOrder) : o.inOrder = true ↔ o = .ordered := by cases o <;> decide

/-- What a token is read as: the letter gives the order and the digits behind it give the distance. -/
structure ReadsAs (token : String) (o : Operator) : Prop where
  operator : IsOperator token.toList
  distance : o.distance.toNat = distanceOf token.toList
  order : o.order = .ordered ↔ KeepsOrder token.toList

theorem ReadsAs.unique {token : String} {o o' : Operator} (h : ReadsAs token o) (h' : ReadsAs token o') :
    o = o' := by
  have hdistance : o.distance = o'.distance := UInt32.toNat_inj.mp (h.distance.trans h'.distance.symm)
  have horder : o.order = .ordered ↔ o'.order = .ordered := h.order.trans h'.order.symm
  cases o with
  | mk order distance =>
    cases o' with
    | mk order' distance' =>
      cases order <;> cases order' <;> simp_all

theorem parse_cases (token : String) :
    (∃ o, ReadsAs token o ∧ Operator.parse token = .ok o) ∨
    (IsOperator token.toList ∧ 2 ^ 32 ≤ distanceOf token.toList ∧
      Operator.parse token = .error (.malformedAt .distanceOutOfRange token)) ∨
    (¬ IsOperator token.toList ∧ Operator.parse token = .error (.malformedAt .invalidOperator token)) := by
  by_cases hop : IsOperator token.toList
  · rcases Nat.lt_or_ge (distanceOf token.toList) (2 ^ 32) with hd | hd
    · obtain ⟨o, hparse, hdistance, horder⟩ := parse_isOperator hop hd
      rw [String.ofList_toList] at hparse
      exact .inl ⟨o, ⟨hop, hdistance, (inOrder_iff o.order).symm.trans horder⟩, hparse⟩
    · have hparse := parse_isOperator_large hop hd
      rw [String.ofList_toList] at hparse
      exact .inr (.inl ⟨hop, hd, hparse⟩)
  · exact .inr (.inr ⟨hop, parse_not_isOperator hop⟩)

theorem parse_eq_ok_iff (token : String) (o : Operator) : Operator.parse token = .ok o ↔ ReadsAs token o := by
  constructor
  · intro hok
    rcases parse_cases token with ⟨o', hreads, hparse⟩ | ⟨-, -, hparse⟩ | ⟨-, hparse⟩
    · exact Except.ok.inj (hparse.symm.trans hok) ▸ hreads
    · cases hparse.symm.trans hok
    · cases hparse.symm.trans hok
  · intro hreads
    have hlt : distanceOf token.toList < 2 ^ 32 := hreads.distance ▸ o.distance.toNat_lt
    rcases parse_cases token with ⟨o', hreads', hparse⟩ | ⟨-, hge, -⟩ | ⟨hop, -⟩
    · rw [hparse, hreads.unique hreads']
    · exact absurd hge (Nat.not_le.mpr hlt)
    · exact absurd hreads.operator hop

theorem parse_eq_error_iff (token : String) (e : Refusal) :
    Operator.parse token = .error e ↔
      IsOperator token.toList ∧ 2 ^ 32 ≤ distanceOf token.toList ∧ e = .malformedAt .distanceOutOfRange token ∨
        ¬ IsOperator token.toList ∧ e = .malformedAt .invalidOperator token := by
  constructor
  · intro herror
    rcases parse_cases token with ⟨o, -, hparse⟩ | ⟨hop, hge, hparse⟩ | ⟨hop, hparse⟩
    · cases hparse.symm.trans herror
    · exact .inl ⟨hop, hge, Except.error.inj (herror.symm.trans hparse)⟩
    · exact .inr ⟨hop, Except.error.inj (herror.symm.trans hparse)⟩
  · rintro (⟨hop, hge, rfl⟩ | ⟨hop, rfl⟩)
    · have hparse := parse_isOperator_large hop hge
      rwa [String.ofList_toList] at hparse
    · exact parse_not_isOperator hop

theorem exists_readsAs_iff (token : String) :
    (∃ o, ReadsAs token o) ↔ IsOperator token.toList ∧ distanceOf token.toList < 2 ^ 32 := by
  constructor
  · rintro ⟨o, h⟩
    exact ⟨h.operator, h.distance ▸ o.distance.toNat_lt⟩
  · rintro ⟨hop, hlt⟩
    rcases parse_cases token with ⟨o, hreads, -⟩ | ⟨-, hge, -⟩ | ⟨hno, -⟩
    · exact ⟨o, hreads⟩
    · exact absurd hge (Nat.not_le.mpr hlt)
    · exact absurd hop hno

/-- A token is read exactly if it is a letter with digits behind it whose value fits into 32 bits, and then as
that order and that value. One of that form whose value is greater is refused for its distance, every other one
for its form, each with the whole token as the fragment. What is written for an operator is read as it. -/
theorem parse_token (token : String) :
    ((∃ o, Operator.parse token = .ok o) ↔
      IsOperator token.toList ∧ distanceOf token.toList ≤ 2 ^ 32 - 1) ∧
    (∀ o, Operator.parse token = .ok o ↔ ReadsAs token o) ∧
    (∀ e, Operator.parse token = .error e ↔
      IsOperator token.toList ∧ 2 ^ 32 - 1 < distanceOf token.toList ∧ e = .malformedAt .distanceOutOfRange token ∨
        ¬ IsOperator token.toList ∧ e = .malformedAt .invalidOperator token) ∧
    Mistake.distanceOutOfRange.message = "proximity distance out of range" ∧
    (∃ usage, Mistake.invalidOperator.message = "invalid operator syntax" ++ usage) ∧
    ∀ (order : SpanOrder) (distance : UInt32),
      Operator.parse (order.keyword ++ toString distance) = .ok ⟨order, distance⟩ := by
  refine ⟨?_, parse_eq_ok_iff token, parse_eq_error_iff token, rfl, ⟨_, message_invalidOperator⟩,
    fun order distance => ?_⟩
  · simp only [parse_eq_ok_iff, exists_readsAs_iff]
    exact and_congr_right' (Nat.lt_iff_le_pred (by decide))
  · have htext := parse_text ⟨order, distance⟩
    rwa [text_eq] at htext

end Proximity
