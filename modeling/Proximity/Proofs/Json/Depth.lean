import Proximity.Proofs.Json.Step

/-! A step never lowers the least depth of the value that a state leads to, so that no more frames are ever open than
the value is deep. -/
namespace Proximity.Json
set_option autoImplicit false

/-! ## Depth -/

/-- The depth of what an open frame already holds. -/
def Frame.depth : Frame → ℕ
  | .array items => Value.itemsDepth items
  | .object ms _ => Value.membersDepth ms

/-- The least depth of a value in which some frames are open. -/
def framesDepth : List Frame → ℕ
  | [] => 0
  | f :: F => max (F.length + 1 + f.depth) (framesDepth F)

theorem length_le_framesDepth (F : List Frame) : F.length ≤ framesDepth F := by
  cases F with
  | nil => exact Nat.zero_le _
  | cons f F =>
    rw [framesDepth, List.length_cons]
    omega

theorem itemsDepth_append (vs ws : List Value) :
    Value.itemsDepth (vs ++ ws) = max (Value.itemsDepth vs) (Value.itemsDepth ws) := by
  induction vs with
  | nil => simp [Value.itemsDepth]
  | cons v vs ih => rw [List.cons_append, Value.itemsDepth, Value.itemsDepth, ih, max_assoc]

theorem membersDepth_append (ms ns : List (String × Value)) :
    Value.membersDepth (ms ++ ns) = max (Value.membersDepth ms) (Value.membersDepth ns) := by
  induction ms with
  | nil => simp [Value.membersDepth]
  | cons m ms ih => rw [List.cons_append, Value.membersDepth, Value.membersDepth, ih, max_assoc]

theorem itemsDepth_reverse (vs : List Value) : Value.itemsDepth vs.reverse = Value.itemsDepth vs := by
  induction vs with
  | nil => rfl
  | cons v vs ih =>
    rw [List.reverse_cons, itemsDepth_append, ih]
    simp [Value.itemsDepth, max_comm]

theorem membersDepth_reverse (ms : List (String × Value)) : Value.membersDepth ms.reverse = Value.membersDepth ms := by
  induction ms with
  | nil => rfl
  | cons m ms ih =>
    rw [List.reverse_cons, membersDepth_append, ih]
    simp [Value.membersDepth, max_comm]

/-- The least depth of the value that a state leads to. -/
def State.depth (s : State) : ℕ :=
  match s.phase with
  | .complete v => v.depth
  | _ => framesDepth s.frames

theorem depth_deliver (F : List Frame) (v : Value) :
    (State.deliver F v).depth = max (framesDepth F) (F.length + v.depth) := by
  match F with
  | [] => simp [State.deliver, State.depth, framesDepth]
  | .array items :: F =>
    simp only [State.deliver, State.depth, framesDepth, Frame.depth, Value.itemsDepth, List.length_cons]
    omega
  | .object ms key :: F =>
    simp only [State.deliver, State.depth, framesDepth, Frame.depth, Value.membersDepth, List.length_cons]
    omega

theorem depth_close (f : Frame) (F : List Frame) : (State.close (f :: F)).depth = framesDepth (f :: F) := by
  cases f with
  | array items =>
    rw [State.close, depth_deliver, Value.depth, itemsDepth_reverse, framesDepth, Frame.depth]
    omega
  | object ms key =>
    rw [State.close, depth_deliver, Value.depth, membersDepth_reverse, framesDepth, Frame.depth]
    omega

theorem framesDepth_endString (F : List Frame) (cs : List Char) :
    framesDepth (State.endString F ⟨true, cs⟩).frames = framesDepth F := by
  rcases F with _ | ⟨⟨items⟩ | ⟨ms, key⟩, F⟩ <;> rfl

theorem depth_eq {p : Phase} (hp : ∀ v, p ≠ .complete v) (F : List Frame) : State.depth ⟨F, p⟩ = framesDepth F := by
  unfold State.depth
  split
  · rename_i v hv
    exact absurd hv (hp v)
  · rfl

theorem State.length_le_depth {s : State} (h : ∀ v, s.phase ≠ .complete v) : s.frames.length ≤ s.depth :=
  (length_le_framesDepth s.frames).trans (depth_eq h s.frames).ge

theorem depth_le_of_inStep {p : Phase} {F F' : List Frame} {t t' : State} (hp : ∀ v, p ≠ .complete v)
    (h : InStep p F F' t t') : framesDepth F ≤ t.depth := by
  cases h with
  | stay p' _ hv =>
    have hp' : ∀ v, p' ≠ .complete v := fun v h => hp v ((hv v h).trans h)
    rw [depth_eq hp']
  | array =>
    rw [depth_eq (p := .firstItem) nofun, framesDepth]
    exact Nat.le_max_right ..
  | object =>
    rw [depth_eq (p := .firstKey) nofun, framesDepth]
    exact Nat.le_max_right ..
  | deliver v =>
    rw [depth_deliver]
    exact Nat.le_max_left ..
  | name cs =>
    rw [← framesDepth_endString F cs]
    rcases F with _ | ⟨⟨items⟩ | ⟨ms, key⟩, F⟩ <;> exact (depth_eq (p := .colon) nofun _).ge
  | close =>
    cases F with
    | nil => exact Nat.zero_le _
    | cons f F => rw [depth_close]

theorem depth_le_of_step {scope : Scope} {s t : State} {c : Char} (h : s.step scope c = .ok t) : s.depth ≤ t.depth := by
  have hinside : ∀ s : State, (∀ n, s.phase ≠ .number n) → s.step scope c = .ok t → s.depth ≤ t.depth := by
    intro s hnumber h
    by_cases hp : ∃ v, s.phase = .complete v
    · obtain ⟨F, p⟩ := s
      obtain ⟨v, rfl⟩ := hp
      obtain rfl : (⟨F, .complete v⟩ : State) = t := by
        simp only [State.step, State.settle] at h
        split at h <;> cases h
        rfl
      exact le_rfl
    · rw [not_exists] at hp
      obtain ⟨t', -, hin⟩ := State.step_inStep hnumber id .inl t h
      exact (depth_eq hp _).trans_le (depth_le_of_inStep hp hin)
  obtain ⟨F, p⟩ := s
  by_cases hnumber : ∃ n, p = .number n
  · obtain ⟨n, rfl⟩ := hnumber
    rcases State.step_number h with ⟨m, -, rfl⟩ | ⟨-, -, h⟩
    · exact le_rfl
    · rw [← State.step_deliver scope] at h
      refine le_trans ?_ (hinside _ ?_ h)
      · rw [depth_deliver]
        exact Nat.le_max_left ..
      · rcases F with _ | ⟨⟨items⟩ | ⟨ms, key⟩, F⟩ <;> simp [State.deliver]
  · exact hinside ⟨F, p⟩ (not_exists.mp hnumber) h

theorem depth_le_of_run {scope : Scope} {s t : State} {cs : List Char} (h : s.run scope cs = .ok t) :
    s.depth ≤ t.depth := by
  induction cs generalizing s with
  | nil => exact (congrArg State.depth (Except.ok.inj h)).le
  | cons c cs ih =>
    obtain ⟨u, hstep, hrun⟩ := State.run_cons_eq_ok.mp h
    exact (depth_le_of_step hstep).trans (ih hrun)

end Proximity.Json
