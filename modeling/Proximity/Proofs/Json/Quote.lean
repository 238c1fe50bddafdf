import Proximity.Proofs.Json.Numeral

/-! Written strings are read back, character by character: what a character is written as adds that character to
the string under way, whether it is written as it is, behind a backslash or by its code point. -/
namespace Proximity.Json
set_option autoImplicit false

/-! ## Characters -/

theorem hexValue_digitChar {d : ℕ} (h : d < 16) : hexValue? (Nat.digitChar d) = some d := by
  have hall : ∀ d < 16, hexValue? (Nat.digitChar d) = some d := by decide
  exact hall d h

/-- A code point of two hexadecimal digits. -/
theorem run_codePoint (scope : Scope) (frames : List Frame) (q : Quote) {n : ℕ} (hn : n < 256) (rest : List Char) :
    State.run scope ⟨frames, .string q⟩
        ('\\' :: 'u' :: '0' :: '0' :: Nat.digitChar (n / 16) :: Nat.digitChar (n % 16) :: rest) =
      State.run scope ⟨frames, .string (q.push (Char.ofNat n))⟩ rest := by
  have hhigh : hexValue? (Nat.digitChar (n / 16)) = some (n / 16) := hexValue_digitChar (by omega)
  have hlow : hexValue? (Nat.digitChar (n % 16)) = some (n % 16) := hexValue_digitChar (by omega)
  have hvalue : n / 16 * 16 + n % 16 = n := by omega
  have s1 : State.step scope ⟨frames, .string q⟩ '\\' = .ok ⟨frames, .escape q⟩ := rfl
  have s2 : State.step scope ⟨frames, .escape q⟩ 'u' = .ok ⟨frames, .hex q none 0 4⟩ := rfl
  have s3 : State.step scope ⟨frames, .hex q none 0 4⟩ '0' = .ok ⟨frames, .hex q none 0 3⟩ := rfl
  have s4 : State.step scope ⟨frames, .hex q none 0 3⟩ '0' = .ok ⟨frames, .hex q none 0 2⟩ := rfl
  have s5 : State.step scope ⟨frames, .hex q none 0 2⟩ (Nat.digitChar (n / 16)) =
      .ok ⟨frames, .hex q none (n / 16) 1⟩ := by
    simp [State.step, hhigh]
  have hunit : State.endUnit scope frames q n = .ok (.string (q.push (Char.ofNat n))) := by
    rw [State.endUnit, if_neg (by omega), if_neg (by omega)]
  have s6 : State.step scope ⟨frames, .hex q none (n / 16) 1⟩ (Nat.digitChar (n % 16)) =
      .ok ⟨frames, .string (q.push (Char.ofNat n))⟩ := by
    simp [State.step, hlow, hvalue, hunit, bind, Except.bind]
  rw [State.run_of_step s1, State.run_of_step s2, State.run_of_step s3, State.run_of_step s4,
    State.run_of_step s5, State.run_of_step s6]

theorem run_escapeChar (scope : Scope) (frames : List Frame) (q : Quote) (c : Char) (rest : List Char) :
    State.run scope ⟨frames, .string q⟩ (escapeChar c ++ rest) =
      State.run scope ⟨frames, .string (q.push c)⟩ rest := by
  unfold escapeChar
  split
  case h_8 hquote hbackslash _ _ _ _ _ =>
    by_cases hcontrol : c < ' '
    · have hlt : c.toNat < 32 := hcontrol
      rw [if_pos hcontrol]
      have h := run_codePoint scope frames q (by omega : c.toNat < 256) rest
      rwa [Char.ofNat_toNat] at h
    · have hstep : State.step scope ⟨frames, .string q⟩ c = .ok ⟨frames, .string (q.push c)⟩ := by
        simp only [State.step, State.stringStep, if_neg hquote, if_neg hbackslash, if_neg hcontrol]
      rw [if_neg hcontrol]
      exact State.run_of_step hstep rest
  all_goals rfl

/-! ## Strings -/

theorem run_escaped (scope : Scope) (frames : List Frame) (isKey : Bool) (cs before rest : List Char) :
    State.run scope ⟨frames, .string ⟨isKey, before⟩⟩ (cs.flatMap escapeChar ++ '"' :: rest) =
      State.run scope (State.endString frames ⟨isKey, cs.reverse ++ before⟩) rest := by
  induction cs generalizing before with
  | nil => exact State.run_of_step rfl rest
  | cons c cs ih =>
    rw [List.flatMap_cons, List.append_assoc, run_escapeChar, Quote.push, ih, List.reverse_cons,
      List.append_assoc, List.singleton_append]

theorem run_writeString (scope : Scope) (frames : List Frame) (s : String) (rest : List Char) :
    State.run scope ⟨frames, .value⟩ (writeString s ++ rest) =
      State.run scope (State.deliver frames (.string s)) rest := by
  have hopen : State.step scope ⟨frames, .value⟩ '"' = .ok ⟨frames, .string ⟨false, []⟩⟩ := rfl
  have hclose : State.endString frames ⟨false, s.toList.reverse ++ []⟩ = State.deliver frames (.string s) := by
    simp [State.endString]
  rw [writeString, List.cons_append, List.cons_append, List.append_assoc, State.run_of_step hopen,
    List.singleton_append, run_escaped, hclose]

/-- A key is read where one may stand. -/
theorem run_writeKey (scope : Scope) (members : List (String × Value)) (key : Option String) (outer : List Frame)
    {p : Phase} (hp : p = .firstKey ∨ p = .furtherKey) (s : String) (rest : List Char) :
    State.run scope ⟨.object members key :: outer, p⟩ (writeString s ++ rest) =
      State.run scope ⟨.object members (some s) :: outer, .colon⟩ rest := by
  have hopen : State.step scope ⟨.object members key :: outer, p⟩ '"' =
      .ok ⟨.object members key :: outer, .string ⟨true, []⟩⟩ := by
    rcases hp with rfl | rfl <;> rfl
  have hclose : State.endString (.object members key :: outer) ⟨true, s.toList.reverse ++ []⟩ =
      ⟨.object members (some s) :: outer, .colon⟩ := by
    simp [State.endString]
  rw [writeString, List.cons_append, List.cons_append, List.append_assoc, State.run_of_step hopen,
    List.singleton_append, run_escaped, hclose]

end Proximity.Json
