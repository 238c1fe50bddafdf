import Proximity.Proofs.Json.Depth
import Proximity.Proofs.Json.RoundTrip

/-! A member of the outermost object is read in the same way whatever stands in front of it.

* `InPlace`: two readers inside one value that has other frames around it for each of them.
* `InMember`: two readers inside one member that has other members in front of it for each of them.
* `Reads`: the text of a member, behind any members.
* `run_object`, `exists_members`: objects are read from the texts of their members, and from nothing else. -/
namespace Proximity.Json
set_option autoImplicit false

/-! ## Values in two places -/

section
variable {scope scope' : Scope} {base base' : List Frame}

/-- Two readers are inside the same value, one of them with the frames `base` around it, the other with `base'`. -/
inductive InPlace (base base' : List Frame) : State → State → Prop
  | mk (G : List Frame) (p : Phase) (h : G = [] → p.Open) (hp : ∀ v, p ≠ .complete v) :
    InPlace base base' ⟨G ++ base, p⟩ ⟨G ++ base', p⟩

/-- Both readers are still inside the value, or have handed it to the frames around it. -/
def OnValue (base base' : List Frame) (t t' : State) : Prop :=
  InPlace base base' t t' ∨ ∃ v, t = State.deliver base v ∧ t' = State.deliver base' v

/-- What ends a member ends the value that a state has read up to here. -/
def EndsValue (scope : Scope) (s : State) (base : List Frame) (v : Value) : Prop :=
  ∀ c, c = ',' ∨ c = '\x7d' → s.step scope c = (State.deliver base v).settle c

theorem onValue_deliver (G : List Frame) (v : Value) :
    OnValue base base' (State.deliver (G ++ base) v) (State.deliver (G ++ base') v) := by
  match G with
  | [] => exact .inr ⟨v, rfl, rfl⟩
  | .array items :: G => exact .inl (.mk (.array (v :: items) :: G) .afterItem nofun nofun)
  | .object ms key :: G => exact .inl (.mk (.object ((key.getD "", v) :: ms) none :: G) .afterMember nofun nofun)

theorem onValue_close {G : List Frame} (hG : G ≠ []) :
    OnValue base base' (State.close (G ++ base)) (State.close (G ++ base')) := by
  match G with
  | [] => exact absurd rfl hG
  | .array items :: G => exact onValue_deliver G _
  | .object ms key :: G => exact onValue_deliver G _

theorem onValue_endString {G : List Frame} (hG : G ≠ []) (cs : List Char) :
    OnValue base base' (State.endString (G ++ base) ⟨true, cs⟩) (State.endString (G ++ base') ⟨true, cs⟩) := by
  match G with
  | [] => exact absurd rfl hG
  | .array items :: G => exact .inl (.mk (.array items :: G) .colon nofun nofun)
  | .object ms key :: G => exact .inl (.mk (.object ms (some (String.ofList cs.reverse)) :: G) .colon nofun nofun)

/-- The frames around a value leave as much room in the second place, or enough for what has been opened. -/
def Roomy (base base' : List Frame) (t : State) : Prop :=
  base'.length ≤ base.length ∨ t.depth + base'.length ≤ maxDepth + base.length

theorem onValue_inStep {G : List Frame} {p : Phase} (h : G = [] → p.Open) (hp : ∀ v, p ≠ .complete v) {t t' : State}
    (hin : InStep p (G ++ base) (G ++ base') t t') : OnValue base base' t t' := by
  cases hin with
  | stay p' hopen hv => exact .inl (.mk G p' (fun hG => hopen (h hG)) fun v hp' => hp v ((hv v hp').trans hp'))
  | array => exact .inl (.mk (.array [] :: G) .firstItem nofun nofun)
  | object => exact .inl (.mk (.object [] none :: G) .firstKey nofun nofun)
  | deliver v => exact onValue_deliver G v
  | name cs hopen => exact onValue_endString (fun hG => hopen (h hG)) cs
  | close hopen => exact onValue_close fun hG => hopen (h hG)

variable (hpass : ∀ G, scope.passesOver (G ++ base) = true → scope'.passesOver (G ++ base') = true)
include hpass

theorem onValue_step {G : List Frame} {p : Phase} (h : G = [] → p.Open) (hp : ∀ v, p ≠ .complete v)
    (hnumber : ∀ n, p ≠ .number n)
    {c : Char} {t : State} (hstep : State.step scope ⟨G ++ base, p⟩ c = .ok t) (hroom : Roomy base base' t) :
    ∃ t', State.step scope' ⟨G ++ base', p⟩ c = .ok t' ∧ OnValue base base' t t' := by
  have hfree : (G ++ base).length < maxDepth →
      (G ++ base').length < maxDepth ∨ ∀ u, Opened (G ++ base) u → State.step scope ⟨G ++ base, p⟩ c ≠ .ok u := by
    intro hlt
    rw [List.length_append] at hlt ⊢
    rcases hroom with hroom | hroom
    · left
      omega
    · by_cases hopened : Opened (G ++ base) t
      · obtain ⟨⟨f, hf⟩, hcomplete⟩ := hopened
        have hlen := State.length_le_depth hcomplete
        rw [hf, List.length_cons, List.length_append] at hlen
        left
        omega
      · right
        rintro u hu hstep'
        obtain rfl := Except.ok.inj (hstep.symm.trans hstep')
        exact hopened hu
  obtain ⟨t', hstep', hin⟩ := State.step_inStep hnumber (hpass G) hfree t hstep
  exact ⟨t', hstep', onValue_inStep h hp hin⟩

/-- Inside a value a character does the same in both places, unless it ends a number that is the value. -/
theorem InPlace.step {s s' t : State} {c : Char} (h : InPlace base base' s s') (hstep : s.step scope c = .ok t)
    (hroom : Roomy base base' t) :
    (∃ t', s'.step scope' c = .ok t' ∧ OnValue base base' t t') ∨
      ∃ v, EndsValue scope s base v ∧ EndsValue scope' s' base' v ∧
        (State.deliver base v).settle c = .ok t ∧ s'.step scope' c = (State.deliver base' v).settle c := by
  obtain ⟨G, p, h, hp⟩ := h
  by_cases hnumber : ∃ n, p = .number n
  · obtain ⟨n, rfl⟩ := hnumber
    rcases State.step_number hstep with ⟨m, hm, rfl⟩ | ⟨hn, hend, hsettle⟩
    · refine .inl ⟨⟨G ++ base', .number m⟩, ?_, .inl (.mk G (.number m) (fun _ => trivial) (by simp))⟩
      simp only [State.step, hm]
    · have hend' := State.endNumber_alike (hpass G) hend
      cases G with
      | nil =>
        have hends : ∀ {sc : Scope} {F : List Frame},
            State.endNumber sc F n = .ok (State.deliver F (.number n.toNumber)) →
            EndsValue sc ⟨F, .number n⟩ F (.number n.toNumber) := fun h d hd =>
          State.step_number_ended (Numeral.step_of_canEnd (Numeral.canEnd_of_ended hn) hd) h
        exact .inr ⟨_, hends hend, hends hend', hsettle, State.step_number_ended hn hend'⟩
      | cons f G =>
        -- the number is an item or a member inside the value, so its end stays inside
        rw [State.step_number_ended hn hend']
        rw [← State.step_deliver scope] at hsettle
        rw [← State.step_deliver scope']
        cases f with
        | array items =>
          exact .inl (onValue_step hpass (G := .array (_ :: items) :: G) (p := .afterItem) (by simp) (by simp) (by simp)
            hsettle hroom)
        | object ms key =>
          exact .inl (onValue_step hpass (G := .object (_ :: ms) none :: G) (p := .afterMember) (by simp) (by simp)
            (by simp) hsettle hroom)
  · obtain ⟨t', hstep', ht'⟩ := onValue_step hpass h hp (not_exists.mp hnumber) hstep hroom
    exact .inl ⟨t', hstep', ht'⟩

end

/-! ## Members after other members -/

section
variable {scope : Scope} {xs ys : List (String × Value)}

/-- Two readers are inside the same member of the outermost object, one of them behind the members `xs`, the other
behind `ys`. -/
inductive InMember (xs ys : List (String × Value)) : State → State → Prop
  | name {p : Phase} (h : SameString true true p p) : InMember xs ys ⟨[.object xs none], p⟩ ⟨[.object ys none], p⟩
  | colon (k : String) : InMember xs ys ⟨[.object xs (some k)], .colon⟩ ⟨[.object ys (some k)], .colon⟩
  | value (k : String) {s s' : State} (h : InPlace [.object xs (some k)] [.object ys (some k)] s s') :
    InMember xs ys s s'
  | after (m : String × Value) :
    InMember xs ys ⟨[.object (m :: xs) none], .afterMember⟩ ⟨[.object (m :: ys) none], .afterMember⟩

/-- A comma or a closing brace leaves a member that has been read up to here behind the members `xs`. -/
structure Leaves (scope : Scope) (xs : List (String × Value)) (m : String × Value) (s : State) : Prop where
  comma : s.step scope ',' = .ok ⟨[.object (m :: xs) none], .furtherKey⟩
  brace : s.step scope '\x7d' = .ok ⟨[], .complete (.object (m :: xs).reverse)⟩

theorem leaves_after (m : String × Value) : Leaves scope xs m ⟨[.object (m :: xs) none], .afterMember⟩ :=
  ⟨rfl, rfl⟩

theorem EndsValue.leaves {k : String} {v : Value} {s : State} (h : EndsValue scope s [.object xs (some k)] v) :
    Leaves scope xs (k, v) s :=
  ⟨h ',' (.inl rfl), h '\x7d' (.inr rfl)⟩

theorem passesOver_members (G : List Frame) (k : Option String) :
    scope.passesOver (G ++ [.object xs k]) = scope.passesOver (G ++ [.object ys k]) := by
  simp only [Scope.passesOver, List.getLast?_append, List.getLast?_singleton, Option.some_or]
  cases scope <;> cases k <;> rfl

/-- Behind a member there is blank space, or what leaves it. -/
theorem settle_after {m : String × Value} {c : Char} {t : State}
    (h : State.settle ⟨[.object (m :: xs) none], .afterMember⟩ c = .ok t) :
    (t = ⟨[.object (m :: xs) none], .afterMember⟩ ∧
      State.settle ⟨[.object (m :: ys) none], .afterMember⟩ c = .ok ⟨[.object (m :: ys) none], .afterMember⟩) ∨
      c = ',' ∨ c = '\x7d' := by
  simp only [State.settle] at h ⊢
  split_ifs at h ⊢ with hspace hcomma hbrace
  · exact .inl ⟨(Except.ok.inj h).symm, rfl⟩
  · exact .inr (.inl hcomma)
  · exact .inr (.inr hbrace)

theorem onValue_inMember {k : String} {t t' : State} (h : OnValue [.object xs (some k)] [.object ys (some k)] t t') :
    InMember xs ys t t' := by
  rcases h with h | ⟨v, rfl, rfl⟩
  · exact .value k h
  · exact .after (k, v)

/-- A character keeps both readers inside the member, or it leaves the member. -/
theorem InMember.step {s s' t : State} {c : Char} (h : InMember xs ys s s') (hstep : s.step scope c = .ok t) :
    (∃ t', s'.step scope c = .ok t' ∧ InMember xs ys t t') ∨
      (c = ',' ∨ c = '\x7d') ∧ ∃ m, Leaves scope xs m s ∧ Leaves scope ys m s' := by
  cases h with
  | name h =>
    obtain ⟨t', hstep', ht'⟩ := State.step_string (fun hp => (passesOver_members [] none).symm.trans hp) h c t hstep
    refine .inl ⟨t', hstep', ?_⟩
    cases ht' with
    | inside h =>
      obtain rfl := h.eq
      exact .name h
    | ended cs => exact .colon _
  | colon k =>
    simp only [State.step] at hstep ⊢
    split_ifs at hstep ⊢ with hspace hcolon
    · obtain rfl := Except.ok.inj hstep
      exact .inl ⟨_, rfl, .colon k⟩
    · obtain rfl := Except.ok.inj hstep
      exact .inl ⟨_, rfl, .value k (.mk [] .value (fun _ => trivial) (by simp))⟩
  | value k h =>
    rcases h.step (fun G hp => (passesOver_members G _).symm.trans hp) hstep (.inl le_rfl) with
      ⟨t', hstep', ht'⟩ | ⟨v, hends, hends', hsettle, hstep'⟩
    · exact .inl ⟨t', hstep', onValue_inMember ht'⟩
    · rcases settle_after hsettle with ⟨rfl, hsettle'⟩ | hc
      · exact .inl ⟨_, hstep'.trans hsettle', .after (k, v)⟩
      · exact .inr ⟨hc, (k, v), hends.leaves, hends'.leaves⟩
  | after m =>
    rcases settle_after hstep with ⟨rfl, hstep'⟩ | hc
    · exact .inl ⟨_, hstep', .after m⟩
    · exact .inr ⟨hc, m, leaves_after m, leaves_after m⟩

theorem InMember.ne_furtherKey {s s' : State} (h : InMember xs ys s s') (m : String × Value) :
    s ≠ ⟨[.object (m :: xs) none], .furtherKey⟩ := by
  rintro rfl
  generalize hs : (⟨[.object (m :: xs) none], .furtherKey⟩ : State) = s at h
  cases h with
  | name h =>
    obtain ⟨-, rfl⟩ := State.mk.inj hs
    cases h
  | colon k => cases hs
  | value k h =>
    obtain ⟨G, p, h, -⟩ := h
    obtain ⟨hframes, rfl⟩ := State.mk.inj hs
    match G with
    | [] => exact h rfl
    | f :: G =>
      have hlen := congrArg List.length hframes
      simp at hlen
  | after m => cases hs

theorem InMember.not_complete {s s' : State} (h : InMember xs ys s s') (v : Value) : s.phase ≠ .complete v := by
  cases h with
  | name h => exact h.not_complete v
  | colon | after => nofun
  | value k h =>
    obtain ⟨G, p, -, hp⟩ := h
    exact hp v

theorem InMember.leaves {s s' : State} (h : InMember xs ys s s') {m : String × Value} (hm : Leaves scope xs m s) :
    Leaves scope ys m s' := by
  rcases h.step hm.comma with ⟨t', -, ht'⟩ | ⟨-, n, hn, hn'⟩
  · exact absurd rfl (ht'.ne_furtherKey m)
  · have heq := hm.comma.symm.trans hn.comma
    simp only [Except.ok.injEq, State.mk.injEq, List.cons.injEq, Frame.object.injEq, and_true] at heq
    exact heq ▸ hn'

/-- The text of a member is read behind any other members. -/
def Reads (scope : Scope) (seg : List Char) (m : String × Value) : Prop :=
  ∀ ys p, p = .firstKey ∨ p = .furtherKey →
    ∃ u, State.run scope ⟨[.object ys none], p⟩ seg = .ok u ∧ Leaves scope ys m u

/-- A reader inside a member of an object comes to the end of the member, and so does any other. -/
theorem exists_leaves {cs : List Char} {s t : State} {S : List (String × Value) → State}
    (h : ∀ ys, InMember xs ys s (S ys)) (hrun : s.run scope cs = .ok t) {v : Value} (ht : t.phase = .complete v) :
    ∃ seg c rest m, cs = seg ++ c :: rest ∧ (c = ',' ∨ c = '\x7d') ∧
      ∀ ys, ∃ u, (S ys).run scope seg = .ok u ∧ Leaves scope ys m u := by
  induction cs generalizing s S with
  | nil =>
    obtain rfl := Except.ok.inj hrun
    exact absurd ht ((h []).not_complete v)
  | cons c cs ih =>
    obtain ⟨u, hstep, hrun⟩ := State.run_cons_eq_ok.mp hrun
    by_cases hleaves : (c = ',' ∨ c = '\x7d') ∧ ∃ m, Leaves scope xs m s
    · obtain ⟨hc, m, hm⟩ := hleaves
      exact ⟨[], c, cs, m, rfl, hc, fun ys => ⟨S ys, rfl, (h ys).leaves hm⟩⟩
    · have hnext : ∀ ys, ∃ t', (S ys).step scope c = .ok t' ∧ InMember xs ys u t' := by
        intro ys
        refine ((h ys).step hstep).resolve_right ?_
        rintro ⟨hc, m, hm, -⟩
        exact hleaves ⟨hc, m, hm⟩
      choose T hT hin using hnext
      obtain ⟨seg, d, rest, m, rfl, hd, hread⟩ := ih hin hrun
      refine ⟨c :: seg, d, rest, m, rfl, hd, fun ys => ?_⟩
      obtain ⟨v, hv, hm⟩ := hread ys
      exact ⟨v, State.run_cons_eq_ok.mpr ⟨T ys, hT ys, hv⟩, hm⟩

/-- Where a key may stand there is another member, or the end of an object without members. -/
theorem exists_reads {cs : List Char} {p : Phase} (hp : p = .firstKey ∨ p = .furtherKey) {t : State}
    (hrun : State.run scope ⟨[.object xs none], p⟩ cs = .ok t) {v : Value} (ht : t.phase = .complete v) :
    (∃ before rest, cs = before ++ '\x7d' :: rest ∧ (∀ c ∈ before, isSpace c = true) ∧ p = .firstKey) ∨
      ∃ seg c rest m, cs = seg ++ c :: rest ∧ (c = ',' ∨ c = '\x7d') ∧ Reads scope seg m := by
  induction cs with
  | nil =>
    obtain rfl := Except.ok.inj hrun
    rcases hp with rfl | rfl <;> cases ht
  | cons c cs ih =>
    obtain ⟨u, hstep, hrun⟩ := State.run_cons_eq_ok.mp hrun
    by_cases hspace : isSpace c = true
    · have hskip : ∀ ys p, p = .firstKey ∨ p = .furtherKey →
          State.step scope ⟨[.object ys none], p⟩ c = .ok ⟨[.object ys none], p⟩ := by
        rintro ys _ (rfl | rfl) <;> exact if_pos hspace
      obtain rfl := Except.ok.inj (hstep.symm.trans (hskip xs p hp))
      rcases ih hrun with ⟨before, rest, rfl, hbefore, hp⟩ | ⟨seg, d, rest, m, rfl, hd, hread⟩
      · exact .inl ⟨c :: before, rest, rfl, List.forall_mem_cons.mpr ⟨hspace, hbefore⟩, hp⟩
      · refine .inr ⟨c :: seg, d, rest, m, rfl, hd, fun ys q hq => ?_⟩
        obtain ⟨v, hv, hm⟩ := hread ys q hq
        exact ⟨v, State.run_cons_eq_ok.mpr ⟨_, hskip ys q hq, hv⟩, hm⟩
    by_cases hquote : c = '"'
    · have hopen : ∀ ys p, p = .firstKey ∨ p = .furtherKey →
          State.step scope ⟨[.object ys none], p⟩ c = .ok ⟨[.object ys none], .string ⟨true, []⟩⟩ := by
        rintro ys _ (rfl | rfl) <;> rw [hquote] <;> rfl
      obtain rfl := Except.ok.inj (hstep.symm.trans (hopen xs p hp))
      have hin : ∀ ys, InMember xs ys ⟨[.object xs none], .string ⟨true, []⟩⟩
          ⟨[.object ys none], .string ⟨true, []⟩⟩ := fun ys => .name (.string (.mk []))
      obtain ⟨seg, d, rest, m, rfl, hd, hread⟩ := exists_leaves hin hrun ht
      refine .inr ⟨c :: seg, d, rest, m, rfl, hd, fun ys q hq => ?_⟩
      obtain ⟨v, hv, hm⟩ := hread ys
      exact ⟨v, State.run_cons_eq_ok.mpr ⟨_, hopen ys q hq, hv⟩, hm⟩
    · have hbrace : c = '\x7d' ∧ p = .firstKey := by
        rcases hp with rfl | rfl <;> simp only [State.step, if_neg hspace, if_neg hquote] at hstep <;>
          split_ifs at hstep with hbrace
        exact ⟨hbrace, rfl⟩
      exact .inl ⟨[], cs, congrArg (· :: cs) hbrace.1, by simp, hbrace.2⟩

/-! ## Objects -/

theorem run_complete {v : Value} {cs : List Char} {t : State} (h : State.run scope ⟨[], .complete v⟩ cs = .ok t) :
    t = ⟨[], .complete v⟩ ∧ ∀ c ∈ cs, isSpace c = true := by
  induction cs with
  | nil => exact ⟨(Except.ok.inj h).symm, nofun⟩
  | cons c cs ih =>
    obtain ⟨u, hstep, hrun⟩ := State.run_cons_eq_ok.mp h
    simp only [State.step, State.settle] at hstep
    split_ifs at hstep with hspace
    obtain rfl := Except.ok.inj hstep
    exact ⟨(ih hrun).1, List.forall_mem_cons.mpr ⟨hspace, (ih hrun).2⟩⟩

theorem run_key_spaces {p : Phase} (hp : p = .firstKey ∨ p = .furtherKey) {before : List Char}
    (hbefore : ∀ c ∈ before, isSpace c = true) (rest : List Char) :
    State.run scope ⟨[.object xs none], p⟩ (before ++ rest) = State.run scope ⟨[.object xs none], p⟩ rest := by
  refine run_spaces (fun c hc => ?_) hbefore rest
  rcases hp with rfl | rfl <;> exact if_pos hc

/-- The texts of some members are read one after the other, up to the end of the object. -/
theorem run_object {segs : List (List Char)} {ms : List (String × Value)} (h : List.Forall₂ (Reads scope) segs ms)
    (hne : segs ≠ []) (xs : List (String × Value)) {p : Phase} (hp : p = .firstKey ∨ p = .furtherKey)
    (after : List Char) :
    State.run scope ⟨[.object xs none], p⟩ ([','].intercalate segs ++ '\x7d' :: after) =
      State.run scope ⟨[], .complete (.object (xs.reverse ++ ms))⟩ after := by
  induction h generalizing xs p with
  | nil => exact absurd rfl hne
  | @cons seg m segs ms hread htail ih =>
    obtain ⟨u, hu, hm⟩ := hread xs p hp
    cases htail with
    | nil =>
      rw [List.intercalate_singleton, State.run_append, hu]
      refine (State.run_of_step hm.brace after).trans ?_
      rw [List.reverse_cons]
    | @cons seg' m' segs ms hread' htail =>
      have hrest := ih (List.cons_ne_nil _ _) (m :: xs) (.inr rfl)
      rw [List.reverse_cons, List.append_assoc, List.singleton_append] at hrest
      rw [List.intercalate_cons_cons, List.append_assoc, List.append_assoc, State.run_append, hu, ← hrest]
      exact State.run_of_step hm.comma _

/-- What is read as an object with members consists of the texts of its members. -/
theorem exists_members {cs : List Char} {p : Phase} (hp : p = .firstKey ∨ p = .furtherKey) {t : State}
    (hrun : State.run scope ⟨[.object xs none], p⟩ cs = .ok t) {v : Value} (ht : t.phase = .complete v) :
    (p = .firstKey ∧ t = ⟨[], .complete (.object xs.reverse)⟩) ∨
      ∃ segs after ms, segs ≠ [] ∧ cs = [','].intercalate segs ++ '\x7d' :: after ∧
        (∀ c ∈ after, isSpace c = true) ∧ List.Forall₂ (Reads scope) segs ms ∧
        t = ⟨[], .complete (.object (xs.reverse ++ ms))⟩ := by
  induction hn : cs.length using Nat.strong_induction_on generalizing cs xs p with
  | _ n ih =>
    rcases exists_reads hp hrun ht with ⟨before, rest, rfl, hbefore, rfl⟩ | ⟨seg, c, rest, m, rfl, hc, hread⟩
    · rw [run_key_spaces hp hbefore, State.run_of_step (t := ⟨[], .complete (.object xs.reverse)⟩) rfl] at hrun
      exact .inl ⟨rfl, (run_complete hrun).1⟩
    · obtain ⟨u, hu, hm⟩ := hread xs p hp
      rw [State.run_append, hu] at hrun
      refine .inr ?_
      rcases hc with rfl | rfl
      · replace hrun := (State.run_of_step hm.comma rest).symm.trans hrun
        have hlt : rest.length < n := by
          rw [← hn, List.length_append, List.length_cons]
          omega
        obtain ⟨segs, after, ms, hne, rfl, hafter, hreads, rfl⟩ :=
          (ih rest.length hlt (.inr rfl) hrun rfl).resolve_left fun h => absurd h.1 nofun
        obtain ⟨seg', segs, rfl⟩ := List.exists_cons_of_ne_nil hne
        refine ⟨seg :: seg' :: segs, after, m :: ms, List.cons_ne_nil _ _, ?_, hafter, .cons hread hreads, ?_⟩
        · rw [List.intercalate_cons_cons, List.append_assoc, List.append_assoc]
          rfl
        · rw [List.reverse_cons, List.append_assoc, List.singleton_append]
      · replace hrun := (State.run_of_step hm.brace rest).symm.trans hrun
        obtain ⟨rfl, hrest⟩ := run_complete hrun
        refine ⟨[seg], rest, [m], List.cons_ne_nil _ _, ?_, hrest, .cons hread .nil, ?_⟩
        · rw [List.intercalate_singleton]
        · rw [List.reverse_cons]

end

end Proximity.Json
