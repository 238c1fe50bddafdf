import Proximity.Proofs.Json.Step
import Proximity.Proofs.Json.RoundTrip

/-! The first character of a text decides the kind of its value: only what begins with a brace is read as an object,
and only what begins with a quote as a string. -/
namespace Proximity.Json
set_option autoImplicit false

/-! ## Kinds of values -/

section
variable {scope : Scope} {P : Value → Prop}

/-- Whatever an open frame will be, it satisfies `P`. -/
def Frame.Ensures (P : Value → Prop) : Frame → Prop
  | .array _ => ∀ vs, P (.array vs)
  | .object .. => ∀ ms, P (.object ms)

/-- The kind of value that a text has begun with ensures `P` of its value. -/
inductive Leads (P : Value → Prop) : State → Prop
  | complete {v : Value} (h : P v) : Leads P ⟨[], .complete v⟩
  | literal (rest : List Char) {v : Value} (h : P v) : Leads P ⟨[], .literal rest v⟩
  | number (n : Numeral) (h : ∀ i, P (.number i)) : Leads P ⟨[], .number n⟩
  | string {p : Phase} (hp : SameString false false p p) (h : ∀ s, P (.string s)) : Leads P ⟨[], p⟩
  | frame (G : List Frame) {f : Frame} {p : Phase} (hp : ∀ v, p ≠ .complete v) (h : f.Ensures P) :
    Leads P ⟨G ++ [f], p⟩

theorem exists_deliver (P : Value → Prop) (G : List Frame) (f : Frame) (v : Value) :
    ∃ G' f' p, State.deliver (G ++ [f]) v = ⟨G' ++ [f'], p⟩ ∧ (f.Ensures P → f'.Ensures P) ∧
      (p = .afterItem ∨ p = .afterMember) := by
  match G with
  | [] =>
    cases f with
    | array vs => exact ⟨[], .array (v :: vs), _, rfl, id, .inl rfl⟩
    | object ms key => exact ⟨[], .object ((key.getD "", v) :: ms) none, _, rfl, id, .inr rfl⟩
  | .array vs :: G => exact ⟨.array (v :: vs) :: G, f, _, rfl, id, .inl rfl⟩
  | .object ms key :: G => exact ⟨.object ((key.getD "", v) :: ms) none :: G, f, _, rfl, id, .inr rfl⟩

theorem leads_deliver (G : List Frame) {f : Frame} (h : f.Ensures P) (v : Value) :
    Leads P (State.deliver (G ++ [f]) v) := by
  obtain ⟨G', f', p, hd, hf, hp⟩ := exists_deliver P G f v
  rw [hd]
  exact .frame G' (by rcases hp with rfl | rfl <;> nofun) (hf h)

theorem leads_endString (G : List Frame) {f : Frame} (h : f.Ensures P) (cs : List Char) :
    Leads P (State.endString (G ++ [f]) ⟨true, cs⟩) := by
  match G with
  | [] =>
    cases f with
    | array vs => exact .frame (f := .array vs) [] (p := .colon) nofun h
    | object ms key => exact .frame (f := .object ms (some (String.ofList cs.reverse))) [] (p := .colon) nofun h
  | .array vs :: G => exact .frame (.array vs :: G) (p := .colon) nofun h
  | .object ms key :: G => exact .frame (.object ms (some (String.ofList cs.reverse)) :: G) (p := .colon) nofun h

theorem leads_close (G : List Frame) {f : Frame} (h : f.Ensures P) : Leads P (State.close (G ++ [f])) := by
  match G with
  | [] =>
    cases f with
    | array vs => exact .complete (h vs.reverse)
    | object ms key => exact .complete (h ms.reverse)
  | .array vs :: G => exact leads_deliver G h _
  | .object ms key :: G => exact leads_deliver G h _

theorem leads_step {G : List Frame} {f : Frame} {p : Phase} (hp : ∀ v, p ≠ .complete v) (h : f.Ensures P)
    (hnumber : ∀ n, p ≠ .number n) {c : Char} {t : State} (hstep : State.step scope ⟨G ++ [f], p⟩ c = .ok t) :
    Leads P t := by
  obtain ⟨t', -, hin⟩ := State.step_inStep hnumber id .inl t hstep
  cases hin with
  | stay p' _ hv => exact .frame G (fun v h => hp v ((hv v h).trans h)) h
  | array => exact .frame (.array [] :: G) (p := .firstItem) nofun h
  | object => exact .frame (.object [] none :: G) (p := .firstKey) nofun h
  | deliver v => exact leads_deliver G h v
  | name cs => exact leads_endString G h cs
  | close => exact leads_close G h

theorem Leads.step {s t : State} {c : Char} (h : Leads P s) (hstep : s.step scope c = .ok t) : Leads P t := by
  cases h with
  | complete h =>
    simp only [State.step, State.settle] at hstep
    split_ifs at hstep
    exact Except.ok.inj hstep ▸ .complete h
  | literal rest h =>
    rcases rest with _ | ⟨d, _ | ⟨d', ds⟩⟩
    · cases hstep
    · simp only [State.step] at hstep
      split_ifs at hstep
      exact Except.ok.inj hstep ▸ .complete h
    · simp only [State.step] at hstep
      split_ifs at hstep
      exact Except.ok.inj hstep ▸ .literal _ h
  | number n h =>
    rcases State.step_number hstep with ⟨m, -, rfl⟩ | ⟨-, -, hsettle⟩
    · exact .number m h
    · simp only [State.deliver, State.settle] at hsettle
      split_ifs at hsettle
      exact Except.ok.inj hsettle ▸ .complete (h _)
  | string hp h =>
    obtain ⟨t', -, ht⟩ : ∃ t', State.step scope ⟨[], _⟩ c = .ok t' ∧ StringAlike [] [] false false t t' :=
      State.step_string id hp c t hstep
    cases ht with
    | inside hp => exact .string (hp.eq ▸ hp) h
    | ended cs => exact .complete (h _)
  | @frame G f p hp h =>
    by_cases hnumber : ∃ n, p = .number n
    · obtain ⟨n, rfl⟩ := hnumber
      rcases State.step_number hstep with ⟨m, -, rfl⟩ | ⟨-, -, hsettle⟩
      · exact .frame G (by simp) h
      · obtain ⟨G', f', p, hd, hf, hp⟩ := exists_deliver P G f (.number n.toNumber)
        rw [← State.step_deliver scope, hd] at hsettle
        exact leads_step (by rcases hp with rfl | rfl <;> simp) (hf h) (by rcases hp with rfl | rfl <;> simp) hsettle
    · exact leads_step hp h (not_exists.mp hnumber) hstep

theorem Leads.run {s t : State} {cs : List Char} (h : Leads P s) (hrun : s.run scope cs = .ok t) : Leads P t := by
  induction cs generalizing s with
  | nil => exact Except.ok.inj hrun ▸ h
  | cons c cs ih =>
    obtain ⟨u, hstep, hrun⟩ := State.run_cons_eq_ok.mp hrun
    exact ih (h.step hstep) hrun

end

/-! ## The first character -/

section
variable {scope : Scope}

theorem finish_number {F : List Frame} {n : Numeral} {v : Value}
    (h : State.finish scope ⟨F, .number n⟩ = .ok v) :
    F = [] ∧ v = .number n.toNumber ∧ n.canEnd = true ∧
      State.endNumber scope F n = .ok (State.deliver F (.number n.toNumber)) := by
  simp only [State.finish] at h
  split_ifs at h with hn
  split at h
  · rename_i frames w hend
    obtain rfl := Except.ok.inj h
    have heq := State.endNumber_eq hend
    refine ⟨?_, ?_, hn, heq ▸ hend⟩
    all_goals
      match F with
      | [] => first | rfl | exact (Phase.complete.inj (State.mk.inj heq).2)
      | .array items :: F => cases heq
      | .object ms key :: F => cases heq
  · cases h
  · cases h

theorem finish_complete {t : State} {v : Value} (h : t.finish scope = .ok v) (hv : ∀ n, v ≠ .number n) :
    t.phase = .complete v := by
  obtain ⟨F, p⟩ := t
  cases p with
  | complete w => exact congrArg Phase.complete (Except.ok.inj h)
  | number n => exact absurd (finish_number h).2.1 (hv _)
  | _ => cases h

theorem startValue_brace (scope : Scope) : State.startValue scope [] '\x7b' = .ok ⟨[.object [] none], .firstKey⟩ := by
  have hroom : ([] : List Frame).length < maxDepth := by decide
  exact enter_of_room scope (.object [] none) .firstKey hroom

/-- What the first character of a text says of its value. -/
theorem startValue_cases {P : Value → Prop} {c : Char} {t : State} (h : State.startValue scope [] c = .ok t)
    (hobject : c = '\x7b' → ∀ ms, P (.object ms)) (hstring : c = '"' → ∀ s, P (.string s)) (hnull : P .null)
    (hbool : ∀ b, P (.bool b)) (hnumber : ∀ n, P (.number n)) (harray : ∀ vs, P (.array vs)) : Leads P t := by
  unfold State.startValue at h
  split at h
  · exact Except.ok.inj h ▸ .literal _ hnull
  · exact Except.ok.inj h ▸ .literal _ (hbool true)
  · exact Except.ok.inj h ▸ .literal _ (hbool false)
  · exact Except.ok.inj h ▸ .number _ hnumber
  · exact Except.ok.inj h ▸ .string (.string (.mk [])) (hstring rfl)
  · rw [enter_of_room scope _ _ (by decide)] at h
    exact Except.ok.inj h ▸ .frame (p := .firstItem) [] nofun harray
  · rw [enter_of_room scope _ _ (by decide)] at h
    exact Except.ok.inj h ▸ .frame (p := .firstKey) [] nofun (hobject rfl)
  · split_ifs at h
    exact Except.ok.inj h ▸ .number _ hnumber

/-- What a text has begun with decides the kind of its value. -/
theorem Leads.value {P : Value → Prop} {s t : State} {cs : List Char} (h : Leads P s) (hrun : s.run scope cs = .ok t)
    {v : Value} (ht : t.phase = .complete v) : P v := by
  cases h.run hrun with
  | complete h => exact Phase.complete.inj ht ▸ h
  | literal | number => cases ht
  | string hp => exact absurd ht (hp.not_complete v)
  | frame G hp => exact absurd ht (hp v)

theorem exists_first {cs : List Char} {t : State} {v : Value} (hrun : State.initial.run scope cs = .ok t)
    (ht : t.phase = .complete v) :
    ∃ before c rest u, cs = before ++ c :: rest ∧ (∀ c ∈ before, isSpace c = true) ∧
      State.startValue scope [] c = .ok u ∧ u.run scope rest = .ok t := by
  induction cs with
  | nil =>
    obtain rfl := Except.ok.inj hrun
    cases ht
  | cons c cs ih =>
    obtain ⟨u, hstep, hrest⟩ := State.run_cons_eq_ok.mp hrun
    simp only [State.step, State.initial] at hstep
    split_ifs at hstep with hspace
    · obtain rfl := Except.ok.inj hstep
      obtain ⟨before, d, rest, w, rfl, hbefore, hd, hw⟩ := ih hrest
      exact ⟨c :: before, d, rest, w, rfl, List.forall_mem_cons.mpr ⟨hspace, hbefore⟩, hd, hw⟩
    · exact ⟨[], c, cs, u, rfl, by simp, hstep, hrest⟩

/-- A text that is read as an object begins with a brace behind blank space. -/
theorem exists_brace {cs : List Char} {t : State} {ms : List (String × Value)}
    (hrun : State.initial.run scope cs = .ok t) (ht : t.phase = .complete (.object ms)) :
    ∃ before rest, cs = before ++ '\x7b' :: rest ∧ (∀ c ∈ before, isSpace c = true) ∧
      State.run scope ⟨[.object [] none], .firstKey⟩ rest = .ok t := by
  obtain ⟨before, c, rest, u, rfl, hbefore, hstart, hrest⟩ := exists_first hrun ht
  by_cases hc : c = '\x7b'
  · subst hc
    obtain rfl := Except.ok.inj (hstart.symm.trans (startValue_brace scope))
    exact ⟨before, rest, rfl, hbefore, hrest⟩
  · have hkind := startValue_cases (P := fun v => ∀ ms, v ≠ .object ms) hstart (fun h => absurd h hc) nofun nofun nofun
      nofun nofun
    exact absurd rfl (hkind.value hrest ht ms)

/-- A text that is read as a string begins with a quote behind blank space. -/
theorem exists_quote {cs : List Char} {t : State} {s : String} (hrun : State.initial.run scope cs = .ok t)
    (ht : t.phase = .complete (.string s)) :
    ∃ before rest, cs = before ++ '"' :: rest ∧ (∀ c ∈ before, isSpace c = true) ∧
      State.run scope ⟨[], .string ⟨false, []⟩⟩ rest = .ok t := by
  obtain ⟨before, c, rest, u, rfl, hbefore, hstart, hrest⟩ := exists_first hrun ht
  by_cases hc : c = '"'
  · subst hc
    obtain rfl := Except.ok.inj hstart
    exact ⟨before, rest, rfl, hbefore, hrest⟩
  · have hkind := startValue_cases (P := fun v => ∀ s, v ≠ .string s) hstart nofun (fun h => absurd h hc) nofun nofun
      nofun nofun
    exact absurd rfl (hkind.value hrest ht s)

end

end Proximity.Json
