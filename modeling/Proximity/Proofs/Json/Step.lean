import Proximity.Proofs.Json.Numeral

/-! Two readers in step. What one character does depends on the open frames only in whether they are passed over, in
whether there is room for one more, and in the frame that takes up a complete value. So two readers that differ in
their frames do the same as long as the first one is not refused.

* `Follows`: the second reader goes on wherever the first one does.
* `State.step_string`: a step inside a string, be it a key or a value.
* `InStep`, `State.step_inStep`: all that a step outside numbers can do to the frames.
* `State.step_number`: what a step can do to a number. -/
namespace Proximity.Json
set_option autoImplicit false

/-! ## Results in step -/

/-- Where the first result is there, so is the second, and they are related. -/
def Follows {α β : Type} (R : α → β → Prop) (r : Except Fault α) (r' : Except Fault β) : Prop :=
  ∀ a, r = .ok a → ∃ b, r' = .ok b ∧ R a b

namespace Follows
variable {α β γ δ : Type} {R : α → β → Prop} {S : γ → δ → Prop}

theorem ok {a : α} {b : β} (h : R a b) : Follows R (.ok a) (.ok b) := by
  rintro _ ⟨⟩
  exact ⟨b, rfl, h⟩

theorem error (e : Fault) (r' : Except Fault β) : Follows R (.error e) r' := by
  rintro _ ⟨⟩

theorem ite {p : Prop} [Decidable p] {x y : Except Fault α} {x' y' : Except Fault β}
    (hx : p → Follows R x x') (hy : ¬p → Follows R y y') :
    Follows R (if p then x else y) (if p then x' else y') := by
  by_cases hp : p
  · simp only [if_pos hp, hx hp]
  · simp only [if_neg hp, hy hp]

theorem bind {x : Except Fault α} {y : Except Fault β} {f : α → Except Fault γ} {g : β → Except Fault δ}
    (hxy : Follows R x y) (hfg : ∀ a b, R a b → Follows S (f a) (g b)) : Follows S (x >>= f) (y >>= g) := by
  cases x with
  | error e => exact error e _
  | ok a =>
    obtain ⟨b, rfl, hab⟩ := hxy a rfl
    exact hfg a b hab

theorem map {x : Except Fault α} {y : Except Fault β} {f : α → γ} {g : β → δ}
    (hxy : Follows R x y) (hfg : ∀ a b, R a b → S (f a) (g b)) : Follows S (x.map f) (y.map g) := by
  cases x with
  | error e => exact error e _
  | ok a =>
    obtain ⟨b, rfl, hab⟩ := hxy a rfl
    exact ok (hfg a b hab)

end Follows

/-! ## Inside a string -/

/-- Two strings with the same characters so far, one a key or a value as `b` says, the other as `b'` says. -/
inductive SameQuote (b b' : Bool) : Quote → Quote → Prop
  | mk (cs : List Char) : SameQuote b b' ⟨b, cs⟩ ⟨b', cs⟩

/-- The same place in two such strings. -/
inductive SameString (b b' : Bool) : Phase → Phase → Prop
  | string {q q' : Quote} (h : SameQuote b b' q q') : SameString b b' (.string q) (.string q')
  | escape {q q' : Quote} (h : SameQuote b b' q q') : SameString b b' (.escape q) (.escape q')
  | hex {q q' : Quote} (h : SameQuote b b' q q') (high : Option ℕ) (unit owed : ℕ) :
    SameString b b' (.hex q high unit owed) (.hex q' high unit owed)
  | lowBackslash {q q' : Quote} (h : SameQuote b b' q q') (high : ℕ) :
    SameString b b' (.lowBackslash q high) (.lowBackslash q' high)
  | lowLetter {q q' : Quote} (h : SameQuote b b' q q') (high : ℕ) :
    SameString b b' (.lowLetter q high) (.lowLetter q' high)
  | wrongHex (owed : ℕ) : SameString b b' (.wrongHex owed) (.wrongHex owed)

/-- Two strings are still under way at the same place, or have both ended. -/
inductive StringAlike (F F' : List Frame) (b b' : Bool) : State → State → Prop
  | inside {p p' : Phase} (h : SameString b b' p p') : StringAlike F F' b b' ⟨F, p⟩ ⟨F', p'⟩
  | ended (cs : List Char) : StringAlike F F' b b' (State.endString F ⟨b, cs⟩) (State.endString F' ⟨b', cs⟩)

theorem SameQuote.push {b b' : Bool} {q q' : Quote} (h : SameQuote b b' q q') (c : Char) :
    SameQuote b b' (q.push c) (q'.push c) := by
  cases h with
  | mk cs => exact .mk (c :: cs)

namespace State
variable {scope scope' : Scope} {F F' : List Frame} {b b' : Bool} {q q' : Quote}

theorem stringStep_alike (h : SameQuote b b' q q') (c : Char) :
    Follows (StringAlike F F' b b') (stringStep F q c) (stringStep F' q' c) := by
  refine .ite (fun _ => .ok ?_) fun _ => .ite (fun _ => .ok (.inside (.escape h))) fun _ =>
    .ite (fun _ => .error _ _) fun _ => .ok (.inside (.string (h.push c)))
  cases h with
  | mk cs => exact .ended cs

theorem escapeStep_alike (h : SameQuote b b' q q') (c : Char) :
    Follows (StringAlike F F' b b') (escapeStep F q c) (escapeStep F' q' c) := by
  unfold escapeStep
  cases escapedLetter? c with
  | some d => exact .ok (.inside (.string (h.push d)))
  | none => exact .ite (fun _ => .ok (.inside (.hex h none 0 4))) fun _ => .error _ _

section
variable (hpass : scope.passesOver F = true → scope'.passesOver F' = true)
include hpass

theorem halfAlone_alike (h : SameQuote b b' q q') (e : Fault) :
    Follows (SameQuote b b') (halfAlone scope F q e) (halfAlone scope' F' q' e) := by
  unfold halfAlone
  cases hp : scope.passesOver F with
  | false => exact .error _ _
  | true =>
    rw [hpass hp]
    exact .ok (h.push _)

theorem endUnit_alike (h : SameQuote b b' q q') (unit : ℕ) :
    Follows (SameString b b') (endUnit scope F q unit) (endUnit scope' F' q' unit) := by
  refine .ite (fun _ => (halfAlone_alike hpass h _).map fun _ _ h => .string h) fun _ =>
    .ite (fun _ => .ok (.lowBackslash h unit)) fun _ => .ok (.string (h.push _))

theorem endPair_alike (h : SameQuote b b' q q') (high unit : ℕ) :
    Follows (SameString b b') (endPair scope F q high unit) (endPair scope' F' q' high unit) := by
  refine .ite (fun _ => .ok (.string (h.push _))) fun _ => ?_
  exact (halfAlone_alike hpass h _).bind fun _ _ h => endUnit_alike hpass h unit

/-- A character does the same to a string wherever it stands, if it is not passed over, or passed over there as well. -/
theorem step_string {p p' : Phase} (h : SameString b b' p p') (c : Char) :
    Follows (StringAlike F F' b b') (step scope ⟨F, p⟩ c) (step scope' ⟨F', p'⟩ c) := by
  cases h with
  | string h => exact stringStep_alike h c
  | escape h => exact escapeStep_alike h c
  | hex h high unit owed =>
    simp only [step]
    cases hexValue? c with
    | none => exact .ite (fun _ => .error _ _) fun _ => .ok (.inside (.wrongHex _))
    | some d =>
      refine .ite (fun _ => ?_) fun _ => .ok (.inside (.hex h high _ _))
      cases high with
      | none => exact (endUnit_alike hpass h _).bind fun _ _ h => .ok (.inside h)
      | some high => exact (endPair_alike hpass h high _).bind fun _ _ h => .ok (.inside h)
  | lowBackslash h high =>
    refine .ite (fun _ => .ok (.inside (.lowLetter h high))) fun _ => ?_
    exact (halfAlone_alike hpass h _).bind fun _ _ h => stringStep_alike h c
  | lowLetter h high =>
    refine .ite (fun _ => .ok (.inside (.hex h (some high) 0 4))) fun _ => ?_
    exact (halfAlone_alike hpass h _).bind fun _ _ h => escapeStep_alike h c
  | wrongHex owed => exact .ite (fun _ => .error _ _) fun _ => .ok (.inside (.wrongHex _))

end

end State

/-! ## Outside strings and numbers -/

/-- The phases of a value that is under way or has yet to begin, with no array or object open inside it. -/
def Phase.Open : Phase → Prop
  | .value | .literal .. | .number _ | .wrongHex _ => True
  | .string q | .escape q | .hex q .. | .lowBackslash q _ | .lowLetter q _ => q.isKey = false
  | _ => False

/-- A frame has been opened inside some frames. -/
def Opened (F : List Frame) (t : State) : Prop :=
  (∃ f, t.frames = f :: F) ∧ ∀ v, t.phase ≠ .complete v

/-- What one step makes of two stacks of frames in the same phase. -/
inductive InStep (p : Phase) (F F' : List Frame) : State → State → Prop
  | stay (p' : Phase) (h : p.Open → p'.Open) (hv : ∀ v, p' = .complete v → p = p') : InStep p F F' ⟨F, p'⟩ ⟨F', p'⟩
  | array : InStep p F F' ⟨.array [] :: F, .firstItem⟩ ⟨.array [] :: F', .firstItem⟩
  | object : InStep p F F' ⟨.object [] none :: F, .firstKey⟩ ⟨.object [] none :: F', .firstKey⟩
  | deliver (v : Value) : InStep p F F' (State.deliver F v) (State.deliver F' v)
  | name (cs : List Char) (h : ¬p.Open) : InStep p F F' (State.endString F ⟨true, cs⟩) (State.endString F' ⟨true, cs⟩)
  | close (h : ¬p.Open) : InStep p F F' (State.close F) (State.close F')

theorem SameQuote.refl (q : Quote) : SameQuote q.isKey q.isKey q q := .mk q.chars

theorem SameString.eq {b : Bool} {p p' : Phase} (h : SameString b b p p') : p = p' := by
  cases h with
  | wrongHex owed => rfl
  | string h | escape h | hex h | lowBackslash h | lowLetter h =>
    cases h with
    | mk cs => rfl

theorem SameString.open {b' : Bool} {p p' : Phase} (h : SameString false b' p p') : p.Open := by
  cases h with
  | wrongHex owed => trivial
  | string h | escape h | hex h | lowBackslash h | lowLetter h =>
    cases h with
    | mk cs => rfl

theorem SameString.not_complete {b b' : Bool} {p p' : Phase} (h : SameString b b' p p') (v : Value) :
    p ≠ .complete v := by
  cases h <;> nofun

namespace State
variable {scope scope' : Scope} {F F' : List Frame} {p : Phase} {c : Char}

section
variable (hpass : scope.passesOver F = true → scope'.passesOver F' = true)
include hpass

theorem enter_inStep {f : Frame} {p' : Phase} (h : InStep p F F' ⟨f :: F, p'⟩ ⟨f :: F', p'⟩)
    (hroom : F.length < maxDepth → F'.length < maxDepth ∨ enter scope F f p' ≠ .ok ⟨f :: F, p'⟩) :
    Follows (InStep p F F') (enter scope F f p') (enter scope' F' f p') := by
  unfold enter at hroom ⊢
  by_cases hF : F.length < maxDepth
  · have hF' : F'.length < maxDepth := (hroom hF).resolve_right fun hne => hne (by simp [hF])
    simp only [decide_eq_true hF, decide_eq_true hF', Bool.true_or, if_true]
    exact .ok h
  · cases hp : scope.passesOver F with
    | false => simp [hF, Follows.error]
    | true =>
      simp only [hpass hp, Bool.or_true, if_true]
      exact .ok h

theorem startValue_inStep
    (hroom : F.length < maxDepth → F'.length < maxDepth ∨ ∀ t, Opened F t → startValue scope F c ≠ .ok t) :
    Follows (InStep p F F') (startValue scope F c) (startValue scope' F' c) := by
  unfold startValue at hroom ⊢
  split
  · exact .ok (.stay _ (fun _ => trivial) nofun)
  · exact .ok (.stay _ (fun _ => trivial) nofun)
  · exact .ok (.stay _ (fun _ => trivial) nofun)
  · exact .ok (.stay _ (fun _ => trivial) nofun)
  · exact .ok (.stay _ (fun _ => rfl) nofun)
  · exact enter_inStep hpass .array fun h => (hroom h).imp_right fun h => h _ ⟨⟨_, rfl⟩, nofun⟩
  · exact enter_inStep hpass .object fun h => (hroom h).imp_right fun h => h _ ⟨⟨_, rfl⟩, nofun⟩
  · exact .ite (fun _ => .ok (.stay _ (fun _ => trivial) nofun)) fun _ => .error _ _

end

theorem stringAlike_inStep {q : Quote} (hp : p.Open ↔ q.isKey = false) {r r' : Except Fault State}
    (h : Follows (StringAlike F F' q.isKey q.isKey) r r') : Follows (InStep p F F') r r' := by
  intro t ht
  obtain ⟨t', ht', h⟩ := h t ht
  refine ⟨t', ht', ?_⟩
  cases h with
  | inside h =>
    obtain rfl := h.eq
    exact .stay _ (fun hopen => (hp.mp hopen ▸ h).open) fun v hv => absurd hv (h.not_complete v)
  | ended cs =>
    by_cases hk : q.isKey = true
    · rw [hk]
      exact .name cs fun h => absurd (hp.mp h) (by simp [hk])
    · rw [Bool.not_eq_true] at hk
      rw [hk]
      exact .deliver _

/-- Outside numbers, a character does the same to frames that leave as much room. -/
theorem step_inStep (hnumber : ∀ n, p ≠ .number n) (hpass : scope.passesOver F = true → scope'.passesOver F' = true)
    (hroom : F.length < maxDepth → F'.length < maxDepth ∨ ∀ t, Opened F t → step scope ⟨F, p⟩ c ≠ .ok t) :
    Follows (InStep p F F') (step scope ⟨F, p⟩ c) (step scope' ⟨F', p⟩ c) := by
  cases p with
  | value =>
    refine .ite (fun _ => .ok (.stay _ id fun _ _ => rfl)) fun hc => startValue_inStep hpass fun h => ?_
    simpa only [step, if_neg hc] using hroom h
  | firstItem =>
    refine .ite (fun _ => .ok (.stay _ id fun _ _ => rfl)) fun hc => .ite (fun _ => .ok (.close id)) fun hc' =>
      startValue_inStep hpass fun h => ?_
    simpa only [step, if_neg hc, if_neg hc'] using hroom h
  | furtherItem =>
    refine .ite (fun _ => .ok (.stay _ id fun _ _ => rfl)) fun hc => .ite (fun _ => .error _ _) fun hc' =>
      startValue_inStep hpass fun h => ?_
    simpa only [step, if_neg hc, if_neg hc'] using hroom h
  | firstKey =>
    exact .ite (fun _ => .ok (.stay _ id fun _ _ => rfl)) fun _ => .ite (fun _ => .ok (.close id)) fun _ =>
      .ite (fun _ => .ok (.stay _ False.elim (by simp))) fun _ => .error _ _
  | furtherKey =>
    exact .ite (fun _ => .ok (.stay _ id fun _ _ => rfl)) fun _ => .ite (fun _ => .error _ _) fun _ =>
      .ite (fun _ => .ok (.stay _ False.elim (by simp))) fun _ => .error _ _
  | colon =>
    exact .ite (fun _ => .ok (.stay _ id fun _ _ => rfl)) fun _ =>
      .ite (fun _ => .ok (.stay _ False.elim (by simp))) fun _ => .error _ _
  | afterItem | afterMember =>
    exact .ite (fun _ => .ok (.stay _ id fun _ _ => rfl)) fun _ =>
      .ite (fun _ => .ok (.stay _ False.elim (by simp))) fun _ =>
      .ite (fun _ => .ok (.close id)) fun _ => .error _ _
  | complete v => exact .ite (fun _ => .ok (.stay _ id fun _ _ => rfl)) fun _ => .error _ _
  | literal rest v =>
    rcases rest with _ | ⟨d, _ | ⟨d', ds⟩⟩
    · exact .error _ _
    · exact .ite (fun _ => .ok (.deliver v)) fun _ => .error _ _
    · exact .ite (fun _ => .ok (.stay _ id (by simp))) fun _ => .error _ _
  | number n => exact absurd rfl (hnumber n)
  | string q => exact stringAlike_inStep .rfl (step_string hpass (.string (.refl q)) c)
  | escape q => exact stringAlike_inStep .rfl (step_string hpass (.escape (.refl q)) c)
  | hex q high unit owed => exact stringAlike_inStep .rfl (step_string hpass (.hex (.refl q) high unit owed) c)
  | lowBackslash q high => exact stringAlike_inStep .rfl (step_string hpass (.lowBackslash (.refl q) high) c)
  | lowLetter q high => exact stringAlike_inStep .rfl (step_string hpass (.lowLetter (.refl q) high) c)
  | wrongHex owed =>
    exact .ite (fun _ => .error _ _) fun _ => .ok (.stay _ id (by simp))

end State

/-! ## Numbers -/

theorem Numeral.canEnd_of_ended {n : Numeral} {c : Char} (h : n.step c = .ended) : n.canEnd = true := by
  unfold step at h
  unfold canEnd
  split at h <;> rename_i hpart <;> simp only [hpart]
  all_goals
    unfold requireDigit at h
    split_ifs at h

/-- A comma and a closing brace end a number that may end. -/
theorem Numeral.step_of_canEnd {n : Numeral} (h : n.canEnd = true) {c : Char} (hc : c = ',' ∨ c = '\x7d') :
    n.step c = .ended := by
  have hdigit : c.isDigit = false := by rcases hc with rfl | rfl <;> rfl
  have hother : c ≠ '.' ∧ c ≠ 'e' ∧ c ≠ 'E' := by rcases hc with rfl | rfl <;> decide
  unfold canEnd at h
  split at h <;> rename_i hpart <;> simp_all [step, pointOrMark]

namespace State
variable {scope scope' : Scope} {F F' : List Frame} {n : Numeral} {c : Char} {t : State}

theorem endNumber_eq (h : endNumber scope F n = .ok t) : t = deliver F (.number n.toNumber) := by
  unfold endNumber at h
  split at h
  · rename_i hn
    rw [hn]
    exact (Except.ok.inj h).symm
  · rename_i hn
    rw [hn]
    split at h
    · exact (Except.ok.inj h).symm
    · cases h

theorem endNumber_alike (hpass : scope.passesOver F = true → scope'.passesOver F' = true)
    (h : endNumber scope F n = .ok t) : endNumber scope' F' n = .ok (deliver F' (.number n.toNumber)) := by
  unfold endNumber at h ⊢
  cases hn : n.toNumber with
  | integer i => rfl
  | decimal d =>
    simp only [hn] at h ⊢
    split at h
    · rename_i hd
      rw [Bool.or_eq_true] at hd
      rw [if_pos (Bool.or_eq_true _ _ ▸ hd.imp_right hpass)]
    · cases h

/-- A number goes on, or it ends and the next character follows the value. -/
theorem step_number (h : step scope ⟨F, .number n⟩ c = .ok t) :
    (∃ m, n.step c = .continued m ∧ t = ⟨F, .number m⟩) ∨
      n.step c = .ended ∧ endNumber scope F n = .ok (deliver F (.number n.toNumber)) ∧
        (deliver F (.number n.toNumber)).settle c = .ok t := by
  simp only [step] at h
  split at h
  · rename_i m hm
    exact .inl ⟨m, hm, (Except.ok.inj h).symm⟩
  · rename_i hn
    cases hend : endNumber scope F n with
    | error e =>
      rw [hend] at h
      cases h
    | ok s =>
      obtain rfl := endNumber_eq hend
      rw [hend] at h
      exact .inr ⟨hn, rfl, h⟩
  · cases h

theorem step_number_ended (hn : n.step c = .ended) (h : endNumber scope F n = .ok t) :
    step scope ⟨F, .number n⟩ c = t.settle c := by
  simp only [step, hn, h]
  rfl

end State

/-! ## Runs -/

theorem State.run_cons_eq_ok {scope : Scope} {s u : State} {c : Char} {cs : List Char} :
    s.run scope (c :: cs) = .ok u ↔ ∃ t, s.step scope c = .ok t ∧ t.run scope cs = .ok u := by
  cases h : s.step scope c with
  | error e => simp [run_of_fault h]
  | ok t => simp [run_of_step h]

end Proximity.Json
