import Mathlib
import Proximity.Json.Reading
import Proximity.Json.Writer

/-! Written integers are read back. A number ends only where something else begins, so its text is read in
front of a comma or of blank space.

* `Numeral.ofDigits`: the state of the reader behind the digits of a number.
* `Number.IsWhole`: the integers of 64 bits, with or without a sign.
* `run_writeNumber`: the text of such an integer is read as that integer. -/
namespace Proximity.Json
set_option autoImplicit false

/-! ## Runs -/

theorem State.run_of_step {scope : Scope} {s t : State} {c : Char} (h : s.step scope c = .ok t)
    (cs : List Char) : s.run scope (c :: cs) = t.run scope cs := by
  rw [run, List.foldlM_cons, h]
  rfl

theorem State.run_of_fault {scope : Scope} {s : State} {c : Char} {e : Fault} (h : s.step scope c = .error e)
    (cs : List Char) : s.run scope (c :: cs) = .error e := by
  rw [run, List.foldlM_cons, h]
  rfl

theorem State.step_deliver (scope : Scope) (frames : List Frame) (v : Value) (c : Char) :
    (deliver frames v).step scope c = (deliver frames v).settle c := by
  rcases frames with _ | ⟨⟨items⟩ | ⟨members, key⟩, outer⟩ <;> rfl

/-! ## Digits -/

theorem eq_zero_of_toDigits {n : ℕ} {ds : List Char} (h : Nat.toDigits 10 n = '0' :: ds) : n = 0 := by
  induction n using Nat.strong_induction_on generalizing ds with
  | _ n ih =>
    rcases Nat.lt_or_ge n 10 with hn | hn
    · rw [Nat.toDigits_of_lt_base hn] at h
      exact Nat.digitChar_eq_zero.mp (List.cons.inj h).1
    · rw [Nat.toDigits_of_base_le (by decide) hn] at h
      obtain ⟨d, es, hd⟩ := List.exists_cons_of_ne_nil (Nat.toDigits_ne_nil (n := n / 10) (b := 10))
      rw [hd, List.cons_append] at h
      obtain ⟨rfl, -⟩ := List.cons.inj h
      have hq := ih (n / 10) (by omega) hd
      omega

theorem isDigit_of_toDigits {n : ℕ} : ∀ d ∈ Nat.toDigits 10 n, d.isDigit = true :=
  fun _ hd => Nat.isDigit_of_mem_toDigits (by decide) (by decide) hd

theorem startValue_digit (scope : Scope) (frames : List Frame) {d : Char} (hd : d.isDigit = true) :
    State.startValue scope frames d = .ok ⟨frames, .number (.ofDigit d)⟩ := by
  unfold State.startValue
  split <;> first
    | exact absurd hd (by decide)
    | exact if_pos hd

theorem not_isSpace_digit {d : Char} (hd : d.isDigit = true) : isSpace d = false := by
  by_contra h
  simp only [isSpace, Bool.not_eq_false, Bool.or_eq_true, decide_eq_true_eq] at h
  rcases h with ((rfl | rfl) | rfl) | rfl <;> exact absurd hd (by decide)

/-! ## Numerals -/

namespace Numeral

/-- A sign and some digits, the first one a zero only if it is alone. -/
def ofDigits (negative : Bool) (ds : List Char) : Numeral :=
  ⟨negative, ds.reverse, [], false, [], if ds.head? = some '0' then .zero else .whole⟩

theorem step_digit {negative : Bool} {ds : List Char} (hne : ds ≠ []) (hzero : ds.head? ≠ some '0') {d : Char}
    (hd : d.isDigit = true) : (ofDigits negative ds).step d = .continued (ofDigits negative (ds ++ [d])) := by
  have hhead : (ds ++ [d]).head? = ds.head? := List.head?_append_of_ne_nil _ hne
  simp only [ofDigits, step, if_neg hzero, hd, if_true, hhead, List.reverse_append, List.reverse_cons,
    List.reverse_nil, List.nil_append, List.cons_append]

/-- The digits of a number are taken up one after the other. -/
theorem run_digits (scope : Scope) (frames : List Frame) (negative : Bool) {es : List Char} {ds : List Char}
    (hne : ds ≠ []) (hzero : ds.head? = some '0' → es = []) (hes : ∀ d ∈ es, d.isDigit = true)
    (rest : List Char) :
    State.run scope ⟨frames, .number (ofDigits negative ds)⟩ (es ++ rest) =
      State.run scope ⟨frames, .number (ofDigits negative (ds ++ es))⟩ rest := by
  induction es generalizing ds with
  | nil => rw [List.append_nil, List.nil_append]
  | cons d es ih =>
    have hd := hes d (List.mem_cons_self ..)
    have hnot : ds.head? ≠ some '0' := fun h => List.cons_ne_nil d es (hzero h)
    have hstep : State.step scope ⟨frames, .number (ofDigits negative ds)⟩ d =
        .ok ⟨frames, .number (ofDigits negative (ds ++ [d]))⟩ := by
      simp only [State.step, step_digit hne hnot hd]
    rw [List.cons_append, State.run_of_step hstep, ih (List.append_ne_nil_of_left_ne_nil hne _),
      List.append_assoc, List.singleton_append]
    · intro h
      rw [List.head?_append_of_ne_nil _ hne] at h
      exact absurd h hnot
    · exact fun x hx => hes x (List.mem_cons_of_mem d hx)

theorem step_end {negative : Bool} {ds : List Char} {c : Char} (hd : c.isDigit = false) (hpoint : c ≠ '.')
    (hmark : c ≠ 'e') (hMark : c ≠ 'E') : (ofDigits negative ds).step c = .ended := by
  by_cases hzero : ds.head? = some '0' <;>
    simp [ofDigits, step, hzero, hd, pointOrMark, hpoint, hmark, hMark]

theorem part_ofDigits (negative : Bool) (ds : List Char) :
    (ofDigits negative ds).part = .zero ∨ (ofDigits negative ds).part = .whole := by
  simp only [ofDigits]
  split
  · exact .inl rfl
  · exact .inr rfl

theorem toNumber_ofDigits {n : ℕ} (hn : n < 2 ^ 64) :
    (ofDigits false (Nat.toDigits 10 n)).toNumber = .integer n := by
  have hsize : digitsValue (Nat.toDigits 10 n) = n := Nat.ofDigitChars_ten_toDigits
  have hlt : n < UInt64.size := hn
  rw [toNumber, if_pos (part_ofDigits _ _)]
  simp only [ofDigits, List.reverse_reverse, hsize, Bool.false_eq_true, if_false, if_pos hlt]

theorem toNumber_ofDigits_negative {n : ℕ} (hpos : 0 < n) (hn : n ≤ 2 ^ 63) :
    (ofDigits true (Nat.toDigits 10 n)).toNumber = .integer (-n) := by
  have hsize : digitsValue (Nat.toDigits 10 n) = n := Nat.ofDigitChars_ten_toDigits
  have hle : 0 < n ∧ n ≤ UInt64.size / 2 := ⟨hpos, hn⟩
  rw [toNumber, if_pos (part_ofDigits _ _)]
  simp only [ofDigits, List.reverse_reverse, hsize, if_true, if_pos hle]

end Numeral

/-! ## Written numbers -/

/-- An integer of 64 bits, with or without a sign. -/
def Number.IsWhole : Number → Prop
  | .integer i => -2 ^ 63 ≤ i ∧ i < 2 ^ 64
  | .decimal _ => False

/-- A character that ends a number in front of it. -/
def EndsNumber (c : Char) : Prop := c = ',' ∨ isSpace c = true

theorem EndsNumber.not_continued {c : Char} (hc : EndsNumber c) :
    c.isDigit = false ∧ c ≠ '.' ∧ c ≠ 'e' ∧ c ≠ 'E' := by
  simp only [EndsNumber, isSpace, Bool.or_eq_true, decide_eq_true_eq] at hc
  rcases hc with rfl | ((rfl | rfl) | rfl) | rfl <;> decide

/-- The digits of a natural number, with a sign in front of them or without one. -/
theorem run_toDigits (scope : Scope) (frames : List Frame) (negative : Bool) (n : ℕ) (rest : List Char) :
    State.run scope ⟨frames, .value⟩ ((if negative then ['-'] else []) ++ Nat.toDigits 10 n ++ rest) =
      State.run scope ⟨frames, .number (.ofDigits negative (Nat.toDigits 10 n))⟩ rest := by
  obtain ⟨d, ds, hds⟩ := List.exists_cons_of_ne_nil (Nat.toDigits_ne_nil (n := n) (b := 10))
  have hdigits := isDigit_of_toDigits (n := n)
  rw [hds] at hdigits
  have hd := hdigits d (List.mem_cons_self ..)
  have hrest := Numeral.run_digits scope frames negative (List.cons_ne_nil d [])
    (fun h => by
      obtain rfl : d = '0' := Option.some.inj h
      rw [eq_zero_of_toDigits hds] at hds
      exact (List.cons.inj hds).2.symm)
    (fun x hx => hdigits x (List.mem_cons_of_mem d hx)) rest
  have hfirst : (Numeral.ofDigits negative [d]) =
      ⟨negative, [d], [], false, [], if d = '0' then .zero else .whole⟩ := by
    simp [Numeral.ofDigits]
  rw [List.singleton_append] at hrest
  rw [hds, ← hrest, hfirst]
  cases negative with
  | false =>
    have hstep : State.step scope ⟨frames, .value⟩ d = .ok ⟨frames, .number (.ofDigit d)⟩ := by
      simp only [State.step, not_isSpace_digit hd, startValue_digit scope frames hd, Bool.false_eq_true, if_false]
    exact State.run_of_step hstep _
  | true =>
    have hsign : State.step scope ⟨frames, .value⟩ '-' = .ok ⟨frames, .number .minus⟩ := rfl
    have hstep : State.step scope ⟨frames, .number .minus⟩ d =
        .ok ⟨frames, .number ⟨true, [d], [], false, [], if d = '0' then .zero else .whole⟩⟩ := by
      simp only [State.step, Numeral.step, Numeral.minus, Numeral.requireDigit, hd, if_true]
    exact (State.run_of_step hsign _).trans (State.run_of_step hstep _)

theorem run_writeNumber (scope : Scope) (frames : List Frame) {n : Number} (hn : n.IsWhole) {c : Char}
    (hc : EndsNumber c) (rest : List Char) :
    State.run scope ⟨frames, .value⟩ (writeNumber n ++ c :: rest) =
      State.run scope (State.deliver frames (.number n)) (c :: rest) := by
  cases n with
  | decimal d => exact absurd hn id
  | integer i =>
    obtain ⟨hlow, hhigh⟩ := hn
    have hwrite : writeNumber (.integer i) =
        (if decide (i < 0) then ['-'] else []) ++ Nat.toDigits 10 i.natAbs := by
      unfold writeNumber
      by_cases hi : i < 0 <;> simp [hi]
    have hnumber : (Numeral.ofDigits (decide (i < 0)) (Nat.toDigits 10 i.natAbs)).toNumber = .integer i := by
      by_cases hi : i < 0
      · rw [decide_eq_true hi, Numeral.toNumber_ofDigits_negative (by omega) (by omega)]
        congr 1
        omega
      · rw [decide_eq_false hi, Numeral.toNumber_ofDigits (by omega)]
        congr 1
        omega
    obtain ⟨hdigit, hpoint, hmark, hMark⟩ := hc.not_continued
    have hstep : State.step scope
        ⟨frames, .number (.ofDigits (decide (i < 0)) (Nat.toDigits 10 i.natAbs))⟩ c =
        (State.deliver frames (.number (.integer i))).step scope c := by
      rw [State.step_deliver]
      simp only [State.step, Numeral.step_end hdigit hpoint hmark hMark, State.endNumber, hnumber]
      rfl
    rw [hwrite, run_toDigits, State.run, State.run, List.foldlM_cons, List.foldlM_cons, hstep]

end Proximity.Json
