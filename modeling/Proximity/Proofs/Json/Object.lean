import Proximity.Proofs.Json.Kind
import Proximity.Proofs.Json.Place

/-! The texts of objects. What is read as an object with members consists of the texts of its members, with commas
between them and braces around them; any such texts can be put together; and a key and a value that are read on their
own are together the text of a member. -/
namespace Proximity.Json
set_option autoImplicit false

/-- Some characters are the text of a member of an object: between braces they are read as that member alone. -/
def MemberText (scope : Scope) (seg : List Char) (m : String × Value) : Prop :=
  readWithin scope (String.ofList ('\x7b' :: seg ++ ['\x7d'])) = .ok (.object [m])

/-- The text of an object from the texts of its members, with something in front of it and behind it. -/
def objectText (before : List Char) (segs : List (List Char)) (after : List Char) : String :=
  String.ofList (before ++ '\x7b' :: ([','].intercalate segs ++ '\x7d' :: after))

/-! ## Texts of objects -/

section
variable {scope : Scope}

theorem readWithin_eq_ok {cs : List Char} {v : Value} :
    readWithin scope (String.ofList cs) = .ok v ↔
      ∃ t, State.initial.run scope cs = .ok t ∧ t.finish scope = .ok v := by
  rw [readWithin, String.toList_ofList]
  cases h : State.initial.run scope cs with
  | error e => simp [bind, Except.bind]
  | ok t => simp [bind, Except.bind]

theorem run_before {before : List Char} (hbefore : ∀ c ∈ before, isSpace c = true) (rest : List Char) :
    State.initial.run scope (before ++ '\x7b' :: rest) = State.run scope ⟨[.object [] none], .firstKey⟩ rest := by
  have hskip : ∀ c, isSpace c = true → State.initial.step scope c = .ok State.initial := fun c hc => if_pos hc
  have hopen : State.initial.step scope '\x7b' = .ok ⟨[.object [] none], .firstKey⟩ := startValue_brace scope
  rw [run_spaces hskip hbefore, State.run_of_step hopen]

theorem run_blank {s : State} (hs : ∀ c, isSpace c = true → s.step scope c = .ok s) {cs : List Char}
    (hcs : ∀ c ∈ cs, isSpace c = true) : s.run scope cs = .ok s := by
  have h := run_spaces hs hcs []
  rwa [List.append_nil] at h

theorem readWithin_reads {before after : List Char} (hbefore : ∀ c ∈ before, isSpace c = true)
    (hafter : ∀ c ∈ after, isSpace c = true) {segs : List (List Char)} {ms : List (String × Value)}
    (h : List.Forall₂ (Reads scope) segs ms) (hne : segs ≠ []) :
    readWithin scope (objectText before segs after) = .ok (.object ms) := by
  refine readWithin_eq_ok.mpr ⟨⟨[], .complete (.object ms)⟩, ?_, rfl⟩
  have hskip : ∀ c, isSpace c = true → State.step scope ⟨[], .complete (.object ms)⟩ c =
      .ok ⟨[], .complete (.object ms)⟩ := fun c hc => if_pos hc
  rw [run_before hbefore, run_object h hne [] (.inl rfl)]
  exact run_blank hskip hafter

theorem exists_reads_of_readWithin {text : String} {ms : List (String × Value)}
    (h : readWithin scope text = .ok (.object ms)) (hne : ms ≠ []) :
    ∃ before segs after, (∀ c ∈ before, isSpace c = true) ∧ (∀ c ∈ after, isSpace c = true) ∧ segs ≠ [] ∧
      text = objectText before segs after ∧ List.Forall₂ (Reads scope) segs ms := by
  rw [← String.ofList_toList (s := text)] at h
  obtain ⟨t, hrun, hfinish⟩ := readWithin_eq_ok.mp h
  have ht := finish_complete hfinish nofun
  obtain ⟨before, rest, htext, hbefore, hrest⟩ := exists_brace hrun ht
  rcases exists_members (.inl rfl) hrest ht with ⟨-, rfl⟩ | ⟨segs, after, ns, hsegs, rfl, hafter, hreads, rfl⟩
  · cases ht
    exact absurd rfl hne
  · cases ht
    refine ⟨before, segs, after, hbefore, hafter, hsegs, ?_, hreads⟩
    rw [objectText, ← htext, String.ofList_toList]

theorem memberText_iff {seg : List Char} {m : String × Value} : MemberText scope seg m ↔ Reads scope seg m := by
  have hbraces : String.ofList ('\x7b' :: seg ++ ['\x7d']) = objectText [] [seg] [] := by
    rw [objectText, List.intercalate_singleton]
    rfl
  constructor
  · intro h
    obtain ⟨before, segs, after, hbefore, hafter, hne, htext, hreads⟩ :=
      exists_reads_of_readWithin h (List.cons_ne_nil _ _)
    cases hreads with
    | @cons seg' _ _ _ hread htail =>
      cases htail
      rw [hbraces, objectText, objectText, List.intercalate_singleton, List.intercalate_singleton] at htext
      replace htext := String.ofList_injective htext
      cases before with
      | cons c before =>
        obtain rfl := (List.cons.inj htext).1
        exact absurd (hbefore _ (List.mem_cons_self ..)) (by decide)
      | nil =>
        replace htext := (List.cons.inj htext).2
        rcases List.eq_nil_or_concat after with rfl | ⟨as, a, rfl⟩
        · rwa [List.append_cancel_right htext]
        · rw [List.concat_eq_append, ← List.cons_append, ← List.append_assoc] at htext
          obtain rfl := List.singleton_injective (List.append_inj' htext rfl).2
          exact absurd (hafter '\x7d' (by simp)) (by decide)
  · intro h
    rw [MemberText, hbraces]
    exact readWithin_reads (by simp) (by simp) (.cons h .nil) (List.cons_ne_nil _ _)

theorem forall₂_memberText {segs : List (List Char)} {ms : List (String × Value)} :
    List.Forall₂ (MemberText scope) segs ms ↔ List.Forall₂ (Reads scope) segs ms :=
  ⟨fun h => h.imp fun _ _ => memberText_iff.mp, fun h => h.imp fun _ _ => memberText_iff.mpr⟩

/-- Texts of members, with commas between them and braces around them, are read as an object. -/
theorem readWithin_objectText {before after : List Char} (hbefore : ∀ c ∈ before, isSpace c = true)
    (hafter : ∀ c ∈ after, isSpace c = true) {segs : List (List Char)} {ms : List (String × Value)}
    (h : List.Forall₂ (MemberText scope) segs ms) (hne : ms ≠ []) :
    readWithin scope (objectText before segs after) = .ok (.object ms) := by
  refine readWithin_reads hbefore hafter (forall₂_memberText.mp h) ?_
  rintro rfl
  cases h
  exact hne rfl

/-- Whatever is read as an object with members consists of their texts. -/
theorem exists_objectText {text : String} {ms : List (String × Value)}
    (h : readWithin scope text = .ok (.object ms)) (hne : ms ≠ []) :
    ∃ before segs after, (∀ c ∈ before, isSpace c = true) ∧ (∀ c ∈ after, isSpace c = true) ∧
      text = objectText before segs after ∧ List.Forall₂ (MemberText scope) segs ms := by
  obtain ⟨before, segs, after, hbefore, hafter, -, htext, hreads⟩ := exists_reads_of_readWithin h hne
  exact ⟨before, segs, after, hbefore, hafter, htext, forall₂_memberText.mpr hreads⟩

/-! ## Members from keys and values -/

theorem depth_le_of_finish {t : State} {v : Value} (h : t.finish scope = .ok v) : t.depth ≤ v.depth := by
  obtain ⟨F, p⟩ := t
  cases p with
  | complete w => exact (congrArg Value.depth (Except.ok.inj h)).le
  | number n =>
    obtain ⟨rfl, -⟩ := finish_number h
    exact Nat.zero_le _
  | _ => cases h

theorem run_delivered {xs : List (String × Value)} {k : String} {cs : List Char} {t : State} {v w : Value}
    (hrun : State.run .all (State.deliver [] w) cs = .ok t) (hfinish : t.finish .all = .ok v) :
    ∃ u, State.run scope (State.deliver [.object xs (some k)] w) cs = .ok u ∧ Leaves scope xs (k, v) u := by
  obtain ⟨rfl, hspace⟩ := run_complete hrun
  obtain rfl := Except.ok.inj hfinish
  have hskip : ∀ c, isSpace c = true → State.step scope ⟨[.object ((k, w) :: xs) none], .afterMember⟩ c =
      .ok ⟨[.object ((k, w) :: xs) none], .afterMember⟩ := fun c hc => if_pos hc
  exact ⟨_, run_blank hskip hspace, leaves_after (k, w)⟩

/-- A value that is read as a document is read as the value of a member, if there is room for one more frame. -/
theorem run_value {xs : List (String × Value)} {k : String} {cs : List Char} {s s' t : State} {v : Value}
    (h : InPlace [] [.object xs (some k)] s s') (hrun : s.run .all cs = .ok t) (hfinish : t.finish .all = .ok v)
    (hdepth : v.depth < maxDepth) : ∃ u, s'.run scope cs = .ok u ∧ Leaves scope xs (k, v) u := by
  have hpass : ∀ G, Scope.all.passesOver (G ++ []) = true → scope.passesOver (G ++ [.object xs (some k)]) = true := by
    intro G hG
    cases hG
  induction cs generalizing s s' with
  | nil =>
    obtain rfl := Except.ok.inj hrun
    obtain ⟨G, p, -, hp⟩ := h
    cases p with
    | complete w => exact absurd rfl (hp w)
    | number n =>
      obtain ⟨hG, rfl, hn, hend⟩ := finish_number hfinish
      obtain rfl : G = [] := by rwa [List.append_nil] at hG
      refine ⟨_, rfl, EndsValue.leaves fun c hc => ?_⟩
      exact State.step_number_ended (Numeral.step_of_canEnd hn hc) (State.endNumber_alike (hpass []) hend)
    | _ => cases hfinish
  | cons c cs ih =>
    obtain ⟨u, hstep, hrun⟩ := State.run_cons_eq_ok.mp hrun
    have hu : u.depth ≤ v.depth := (depth_le_of_run hrun).trans (depth_le_of_finish hfinish)
    have hroom : Roomy [] [.object xs (some k)] u := by
      right
      rw [List.length_singleton, List.length_nil]
      omega
    rcases h.step hpass hstep hroom with ⟨u', hstep', hin | ⟨w, rfl, rfl⟩⟩ | ⟨w, -, -, hsettle, hstep'⟩
    · obtain ⟨x, hx, hleaves⟩ := ih hin hrun
      exact ⟨x, State.run_cons_eq_ok.mpr ⟨u', hstep', hx⟩, hleaves⟩
    · obtain ⟨x, hx, hleaves⟩ := run_delivered hrun hfinish
      exact ⟨x, State.run_cons_eq_ok.mpr ⟨_, hstep', hx⟩, hleaves⟩
    · rw [← State.step_deliver .all] at hsettle
      obtain ⟨x, hx, hleaves⟩ := run_delivered (State.run_cons_eq_ok.mpr ⟨u, hsettle, hrun⟩) hfinish
      obtain ⟨y, hy, hx⟩ := State.run_cons_eq_ok.mp hx
      rw [State.step_deliver, ← hstep'] at hy
      exact ⟨x, State.run_cons_eq_ok.mpr ⟨y, hy, hx⟩, hleaves⟩

/-- A string that is read as a document is read as the key of a member. -/
theorem run_key {p p' : Phase} (h : SameString false true p p') {cs : List Char} {t : State} {k : String}
    (hrun : State.run .all ⟨[], p⟩ cs = .ok t) (ht : t.phase = .complete (.string k)) (xs : List (String × Value)) :
    State.run scope ⟨[.object xs none], p'⟩ cs = .ok ⟨[.object xs (some k)], .colon⟩ := by
  induction cs generalizing p p' with
  | nil =>
    obtain rfl := Except.ok.inj hrun
    exact absurd ht (h.not_complete _)
  | cons c cs ih =>
    obtain ⟨u, hstep, hrun⟩ := State.run_cons_eq_ok.mp hrun
    obtain ⟨u', hstep', hu⟩ : ∃ u', State.step scope ⟨[.object xs none], p'⟩ c = .ok u' ∧
        StringAlike [] [.object xs none] false true u u' :=
      State.step_string (fun hp : Scope.all.passesOver [] = true => absurd hp Bool.false_ne_true) h c u hstep
    refine State.run_cons_eq_ok.mpr ⟨u', hstep', ?_⟩
    cases hu with
    | inside h => exact ih h hrun
    | ended ds =>
      obtain ⟨rfl, hspace⟩ := run_complete hrun
      cases ht
      have hskip : ∀ k c, isSpace c = true → State.step scope ⟨[.object xs (some k)], .colon⟩ c =
          .ok ⟨[.object xs (some k)], .colon⟩ := fun k c hc => if_pos hc
      exact run_blank (hskip _) hspace

/-- A key and a value that are each read on their own are together the text of a member. -/
theorem memberText_key_value {key value : String} {k : String} {v : Value} (hkey : read key = .ok (.string k))
    (hvalue : read value = .ok v) (hdepth : v.depth < maxDepth) :
    MemberText scope (key.toList ++ ':' :: value.toList) (k, v) := by
  rw [← String.ofList_toList (s := key)] at hkey
  rw [← String.ofList_toList (s := value)] at hvalue
  obtain ⟨t, hrun, hfinish⟩ := readWithin_eq_ok.mp hkey
  have ht := finish_complete hfinish nofun
  obtain ⟨before, rest, hbefore, hspace, hrest⟩ := exists_quote hrun ht
  obtain ⟨t', hrun', hfinish'⟩ := readWithin_eq_ok.mp hvalue
  refine memberText_iff.mpr fun xs p hp => ?_
  obtain ⟨u, hu, hleaves⟩ : ∃ u, State.run scope ⟨[.object xs (some k)], .value⟩ value.toList = .ok u ∧
      Leaves scope xs (k, v) u := run_value (.mk [] .value (fun _ => trivial) nofun) hrun' hfinish' hdepth
  refine ⟨u, ?_, hleaves⟩
  have hopen : State.step scope ⟨[.object xs none], p⟩ '"' = .ok ⟨[.object xs none], .string ⟨true, []⟩⟩ := by
    rcases hp with rfl | rfl <;> rfl
  have hcolon : State.step scope ⟨[.object xs (some k)], .colon⟩ ':' = .ok ⟨[.object xs (some k)], .value⟩ := rfl
  rw [hbefore, List.append_assoc, run_key_spaces hp hspace, List.cons_append, State.run_of_step hopen, State.run_append,
    run_key (.string (.mk [])) hrest ht xs]
  exact (State.run_of_step hcolon _).trans hu

end

end Proximity.Json
