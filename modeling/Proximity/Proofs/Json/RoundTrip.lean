import Proximity.Proofs.Json.Quote

/-! Written values are read back, unless they are nested too deep.

* `Value.Whole`: the values all of whose numbers are integers of 64 bits.
* `Delivers`: read inside some frames, the text of a value hands the value to them.
* `Refused`: read inside frames that leave no room for its depth, it is refused.
* `read_text`, `read_text_tooDeep`: what this says of a document. -/
namespace Proximity.Json
set_option autoImplicit false

/-- A value all of whose numbers are integers of 64 bits. -/
inductive Value.Whole : Value → Prop
  | null : Whole .null
  | bool (b : Bool) : Whole (.bool b)
  | number {n : Number} (h : n.IsWhole) : Whole (.number n)
  | string (s : String) : Whole (.string s)
  | array {items : List Value} (h : ∀ v ∈ items, Whole v) : Whole (.array items)
  | object {members : List (String × Value)} (h : ∀ m ∈ members, Whole m.2) : Whole (.object members)

theorem Value.whole_natural {n : ℕ} (h : n < 2 ^ 64) : (Value.natural n).Whole :=
  .number ⟨by omega, by omega⟩

/-- A text that ends a number in front of it. -/
def Breaks (rest : List Char) : Prop := ∃ c tail, rest = c :: tail ∧ EndsNumber c

/-- What may stand behind a value: anything, but behind a number only what ends it. -/
def Value.EndsBefore (v : Value) (rest : List Char) : Prop := (∃ n, v = .number n) → Breaks rest

def Delivers (v : Value) : Prop :=
  ∀ (scope : Scope) (frames : List Frame) (k : ℕ) (rest : List Char), frames.length + v.depth ≤ maxDepth →
    v.EndsBefore rest →
    State.run scope ⟨frames, .value⟩ (v.write k ++ rest) = State.run scope (State.deliver frames v) rest

def Refused (v : Value) : Prop :=
  ∀ (frames : List Frame) (k : ℕ) (rest : List Char), frames.length ≤ maxDepth →
    maxDepth < frames.length + v.depth → v.EndsBefore rest →
    State.run .all ⟨frames, .value⟩ (v.write k ++ rest) = .error .tooDeep

/-! ## Blank space -/

theorem run_spaces {scope : Scope} {s : State} (hs : ∀ c, isSpace c = true → s.step scope c = .ok s)
    {cs : List Char} (hcs : ∀ c ∈ cs, isSpace c = true) (rest : List Char) :
    s.run scope (cs ++ rest) = s.run scope rest := by
  induction cs with
  | nil => rfl
  | cons c cs ih =>
    rw [List.cons_append, State.run_of_step (hs c (hcs c (List.mem_cons_self ..)))]
    exact ih fun x hx => hcs x (List.mem_cons_of_mem c hx)

theorem isSpace_newLine {k : ℕ} : ∀ c ∈ newLine k, isSpace c = true := by
  intro c hc
  rcases List.mem_cons.mp hc with rfl | hc
  · rfl
  · rw [List.eq_of_mem_replicate hc]
    rfl

theorem breaks_newLine (k : ℕ) (rest : List Char) : Breaks (newLine k ++ rest) :=
  ⟨'\n', List.replicate (2 * k) ' ' ++ rest, rfl, .inr rfl⟩

theorem breaks_writeItems (k : ℕ) (vs : List Value) {rest : List Char} (h : Breaks rest) :
    Breaks (Value.writeItems k vs ++ rest) := by
  cases vs with
  | nil => exact h
  | cons v vs =>
    rw [Value.writeItems]
    exact ⟨',', _, rfl, .inl rfl⟩

theorem breaks_writeMembers (k : ℕ) (ms : List (String × Value)) {rest : List Char} (h : Breaks rest) :
    Breaks (Value.writeMembers k ms ++ rest) := by
  cases ms with
  | nil => exact h
  | cons m ms =>
    rw [Value.writeMembers]
    exact ⟨',', _, rfl, .inl rfl⟩

/-! ## The first character of a value -/

theorem write_head {v : Value} (hv : v.Whole) (k : ℕ) :
    ∃ c cs, v.write k = c :: cs ∧ isSpace c = false ∧ c ≠ ']' := by
  cases hv with
  | null => exact ⟨'n', ['u', 'l', 'l'], rfl, by decide, by decide⟩
  | bool b =>
    cases b with
    | false => exact ⟨'f', ['a', 'l', 's', 'e'], rfl, by decide, by decide⟩
    | true => exact ⟨'t', ['r', 'u', 'e'], rfl, by decide, by decide⟩
  | string s => exact ⟨'"', _, rfl, by decide, by decide⟩
  | number h =>
    rename_i n
    cases n with
    | decimal d => exact absurd h id
    | integer i =>
      rw [Value.write, writeNumber]
      split
      · exact ⟨'-', _, rfl, by decide, by decide⟩
      · obtain ⟨d, ds, hds⟩ := List.exists_cons_of_ne_nil (Nat.toDigits_ne_nil (n := i.natAbs) (b := 10))
        have hd : d.isDigit = true := isDigit_of_toDigits d (hds ▸ List.mem_cons_self ..)
        refine ⟨d, ds, hds, not_isSpace_digit hd, ?_⟩
        rintro rfl
        exact absurd hd (by decide)
  | array h =>
    rename_i items
    cases items <;> exact ⟨'[', _, rfl, by decide, by decide⟩
  | object h =>
    rename_i members
    cases members <;> exact ⟨'\x7b', _, rfl, by decide, by decide⟩

/-! ## Items -/

section
variable (scope : Scope) (outer : List Frame)

/-- Where an item may begin, it is read like any other value. -/
theorem run_item (items : List Value) {p : Phase} (hp : p = .firstItem ∨ p = .furtherItem) {v : Value}
    (hv : v.Whole) (k : ℕ) (rest : List Char) :
    State.run scope ⟨.array items :: outer, p⟩ (newLine k ++ (v.write k ++ rest)) =
      State.run scope ⟨.array items :: outer, .value⟩ (v.write k ++ rest) := by
  obtain ⟨c, cs, hwrite, hspace, hbracket⟩ := write_head hv k
  have hskip : ∀ x, isSpace x = true →
      State.step scope ⟨.array items :: outer, p⟩ x = .ok ⟨.array items :: outer, p⟩ := by
    rcases hp with rfl | rfl <;> exact fun x hx => if_pos hx
  have hstep : State.step scope ⟨.array items :: outer, p⟩ c =
      State.step scope ⟨.array items :: outer, .value⟩ c := by
    rcases hp with rfl | rfl <;>
      simp only [State.step, hspace, Bool.false_eq_true, if_false, if_neg hbracket]
  rw [run_spaces hskip isSpace_newLine, hwrite, List.cons_append, State.run, State.run, List.foldlM_cons,
    List.foldlM_cons, hstep]

/-- An item in front of another one is read with its comma. -/
theorem run_item_comma {v : Value} (hv : v.Whole) (hdelivers : Delivers v) (items : List Value) {p : Phase}
    (hp : p = .firstItem ∨ p = .furtherItem) (k : ℕ) (w : Value) (vs : List Value) {rest : List Char}
    (hrest : Breaks rest) (hroom : outer.length + 1 + v.depth ≤ maxDepth) :
    State.run scope ⟨.array items :: outer, p⟩
        (newLine k ++ (v.write k ++ (Value.writeItems k (w :: vs) ++ rest))) =
      State.run scope ⟨.array (v :: items) :: outer, .furtherItem⟩
        (newLine k ++ (w.write k ++ (Value.writeItems k vs ++ rest))) := by
  have hfirst := hdelivers scope (.array items :: outer) k (Value.writeItems k (w :: vs) ++ rest)
    (by rw [List.length_cons]; omega) fun _ => breaks_writeItems k (w :: vs) hrest
  have hcomma : State.step scope (State.deliver (.array items :: outer) v) ',' =
      .ok ⟨.array (v :: items) :: outer, .furtherItem⟩ := rfl
  rw [run_item scope outer items hp hv, hfirst]
  simp only [Value.writeItems, List.cons_append, List.append_assoc]
  rw [State.run_of_step hcomma]

theorem run_items {v : Value} {vs : List Value} (hw : ∀ x ∈ v :: vs, x.Whole)
    (h : ∀ x ∈ v :: vs, Delivers x) (items : List Value) {p : Phase} (hp : p = .firstItem ∨ p = .furtherItem)
    (k : ℕ) {rest : List Char} (hrest : Breaks rest)
    (hroom : outer.length + 1 + Value.itemsDepth (v :: vs) ≤ maxDepth) :
    State.run scope ⟨.array items :: outer, p⟩
        (newLine k ++ (v.write k ++ (Value.writeItems k vs ++ rest))) =
      State.run scope ⟨.array (vs.reverse ++ v :: items) :: outer, .afterItem⟩ rest := by
  have hv := hw v (List.mem_cons_self ..)
  have hdelivers := h v (List.mem_cons_self ..)
  rw [Value.itemsDepth] at hroom
  induction vs generalizing v items p with
  | nil =>
    have hlast := hdelivers scope (.array items :: outer) k rest (by rw [List.length_cons]; omega) fun _ => hrest
    rw [Value.writeItems, List.nil_append, run_item scope outer items hp hv, hlast]
    rfl
  | cons w vs ih =>
    obtain ⟨-, hw⟩ := List.forall_mem_cons.mp hw
    obtain ⟨-, h⟩ := List.forall_mem_cons.mp h
    rw [Value.itemsDepth] at hroom
    have hnext := ih hw h (v :: items) (.inr rfl) (by omega) (hw w (List.mem_cons_self ..))
      (h w (List.mem_cons_self ..))
    rw [run_item_comma scope outer hv hdelivers items hp k w vs hrest (by omega), hnext, List.reverse_cons,
      List.append_assoc, List.singleton_append]

theorem run_items_tooDeep {v : Value} {vs : List Value} (hw : ∀ x ∈ v :: vs, x.Whole)
    (h : ∀ x ∈ v :: vs, Delivers x) (h' : ∀ x ∈ v :: vs, Refused x) (items : List Value) {p : Phase}
    (hp : p = .firstItem ∨ p = .furtherItem) (k : ℕ) {rest : List Char} (hrest : Breaks rest)
    (hroom : outer.length + 1 ≤ maxDepth) (hdeep : maxDepth < outer.length + 1 + Value.itemsDepth (v :: vs)) :
    State.run .all ⟨.array items :: outer, p⟩
        (newLine k ++ (v.write k ++ (Value.writeItems k vs ++ rest))) = .error .tooDeep := by
  have hv := hw v (List.mem_cons_self ..)
  have hrefused := h' v (List.mem_cons_self ..) (.array items :: outer) k
  rw [Value.itemsDepth] at hdeep
  induction vs generalizing v items p with
  | nil =>
    rw [Value.itemsDepth] at hdeep
    rw [run_item .all outer items hp hv]
    exact hrefused _ (by rw [List.length_cons]; omega) (by rw [List.length_cons]; omega) fun _ => hrest
  | cons w vs ih =>
    -- the first item that is too deep is refused, and the items in front of it are read
    by_cases hfits : outer.length + 1 + v.depth ≤ maxDepth
    · obtain ⟨hdelivers, h⟩ := List.forall_mem_cons.mp h
      obtain ⟨-, hw⟩ := List.forall_mem_cons.mp hw
      obtain ⟨-, h'⟩ := List.forall_mem_cons.mp h'
      rw [Value.itemsDepth] at hdeep
      rw [run_item_comma .all outer hv hdelivers items hp k w vs hrest hfits]
      exact ih hw h h' (v :: items) (.inr rfl) (by omega) (hw w (List.mem_cons_self ..))
        (h' w (List.mem_cons_self ..) _ k)
    · rw [run_item .all outer items hp hv]
      exact hrefused _ (by rw [List.length_cons]; omega) (by rw [List.length_cons]; omega)
        fun _ => breaks_writeItems k (w :: vs) hrest

/-! ## Members -/

/-- Where a member may begin, its key and its colon are read up to its value. -/
theorem run_member (members : List (String × Value)) (key : Option String) {p : Phase}
    (hp : p = .firstKey ∨ p = .furtherKey) (s : String) (k : ℕ) (rest : List Char) :
    State.run scope ⟨.object members key :: outer, p⟩
        (newLine k ++ (writeString s ++ (':' :: ' ' :: rest))) =
      State.run scope ⟨.object members (some s) :: outer, .value⟩ rest := by
  have hskip : ∀ x, isSpace x = true →
      State.step scope ⟨.object members key :: outer, p⟩ x = .ok ⟨.object members key :: outer, p⟩ := by
    rcases hp with rfl | rfl <;> exact fun x hx => if_pos hx
  have hcolon : State.step scope ⟨.object members (some s) :: outer, .colon⟩ ':' =
      .ok ⟨.object members (some s) :: outer, .value⟩ := rfl
  have hblank : State.step scope ⟨.object members (some s) :: outer, .value⟩ ' ' =
      .ok ⟨.object members (some s) :: outer, .value⟩ := rfl
  rw [run_spaces hskip isSpace_newLine, run_writeKey scope members key outer hp, State.run_of_step hcolon,
    State.run_of_step hblank]

/-- A member in front of another one is read with its comma. -/
theorem run_member_comma {m : String × Value} (hdelivers : Delivers m.2) (members : List (String × Value))
    (key : Option String) {p : Phase} (hp : p = .firstKey ∨ p = .furtherKey) (k : ℕ) (n : String × Value)
    (ms : List (String × Value)) {rest : List Char} (hrest : Breaks rest)
    (hroom : outer.length + 1 + m.2.depth ≤ maxDepth) :
    State.run scope ⟨.object members key :: outer, p⟩ (newLine k ++
        (writeString m.1 ++ (':' :: ' ' :: (m.2.write k ++ (Value.writeMembers k (n :: ms) ++ rest))))) =
      State.run scope ⟨.object (m :: members) none :: outer, .furtherKey⟩ (newLine k ++
        (writeString n.1 ++ (':' :: ' ' :: (n.2.write k ++ (Value.writeMembers k ms ++ rest))))) := by
  have hfirst := hdelivers scope (.object members (some m.1) :: outer) k
    (Value.writeMembers k (n :: ms) ++ rest) (by rw [List.length_cons]; omega)
    fun _ => breaks_writeMembers k (n :: ms) hrest
  have hcomma : State.step scope (State.deliver (.object members (some m.1) :: outer) m.2) ',' =
      .ok ⟨.object (m :: members) none :: outer, .furtherKey⟩ := rfl
  rw [run_member scope outer members key hp, hfirst]
  simp only [Value.writeMembers, List.cons_append, List.append_assoc]
  rw [State.run_of_step hcomma]
  simp only [List.nil_append]

theorem run_members {m : String × Value} {ms : List (String × Value)} (h : ∀ x ∈ m :: ms, Delivers x.2)
    (members : List (String × Value)) (key : Option String) {p : Phase} (hp : p = .firstKey ∨ p = .furtherKey)
    (k : ℕ) {rest : List Char} (hrest : Breaks rest)
    (hroom : outer.length + 1 + Value.membersDepth (m :: ms) ≤ maxDepth) :
    State.run scope ⟨.object members key :: outer, p⟩
        (newLine k ++ (writeString m.1 ++ (':' :: ' ' :: (m.2.write k ++ (Value.writeMembers k ms ++ rest))))) =
      State.run scope ⟨.object (ms.reverse ++ m :: members) none :: outer, .afterMember⟩ rest := by
  have hdelivers := h m (List.mem_cons_self ..)
  rw [Value.membersDepth] at hroom
  induction ms generalizing m members key p with
  | nil =>
    have hlast := hdelivers scope (.object members (some m.1) :: outer) k rest (by rw [List.length_cons]; omega)
      fun _ => hrest
    rw [Value.writeMembers, List.nil_append, run_member scope outer members key hp, hlast]
    rfl
  | cons n ms ih =>
    obtain ⟨-, h⟩ := List.forall_mem_cons.mp h
    rw [Value.membersDepth] at hroom
    have hnext := ih h (m :: members) none (.inr rfl) (by omega) (h n (List.mem_cons_self ..))
    rw [run_member_comma scope outer hdelivers members key hp k n ms hrest (by omega), hnext, List.reverse_cons,
      List.append_assoc, List.singleton_append]

theorem run_members_tooDeep {m : String × Value} {ms : List (String × Value)} (h : ∀ x ∈ m :: ms, Delivers x.2)
    (h' : ∀ x ∈ m :: ms, Refused x.2) (members : List (String × Value)) (key : Option String) {p : Phase}
    (hp : p = .firstKey ∨ p = .furtherKey) (k : ℕ) {rest : List Char} (hrest : Breaks rest)
    (hroom : outer.length + 1 ≤ maxDepth) (hdeep : maxDepth < outer.length + 1 + Value.membersDepth (m :: ms)) :
    State.run .all ⟨.object members key :: outer, p⟩
        (newLine k ++ (writeString m.1 ++ (':' :: ' ' :: (m.2.write k ++ (Value.writeMembers k ms ++ rest))))) =
      .error .tooDeep := by
  have hrefused := h' m (List.mem_cons_self ..) (.object members (some m.1) :: outer) k
  rw [Value.membersDepth] at hdeep
  induction ms generalizing m members key p with
  | nil =>
    rw [Value.membersDepth] at hdeep
    rw [run_member .all outer members key hp]
    exact hrefused _ (by rw [List.length_cons]; omega) (by rw [List.length_cons]; omega) fun _ => hrest
  | cons n ms ih =>
    by_cases hfits : outer.length + 1 + m.2.depth ≤ maxDepth
    · obtain ⟨hdelivers, h⟩ := List.forall_mem_cons.mp h
      obtain ⟨-, h'⟩ := List.forall_mem_cons.mp h'
      rw [Value.membersDepth] at hdeep
      rw [run_member_comma .all outer hdelivers members key hp k n ms hrest hfits]
      exact ih h h' (m :: members) none (.inr rfl) (by omega) (h' n (List.mem_cons_self ..) _ k)
    · rw [run_member .all outer members key hp]
      exact hrefused _ (by rw [List.length_cons]; omega) (by rw [List.length_cons]; omega)
        fun _ => breaks_writeMembers k (n :: ms) hrest

end

/-! ## Values -/

theorem enter_of_room (scope : Scope) {frames : List Frame} (frame : Frame) (p : Phase)
    (h : frames.length < maxDepth) : State.enter scope frames frame p = .ok ⟨frame :: frames, p⟩ := by
  simp only [State.enter, decide_eq_true h, Bool.true_or, if_true]

theorem enter_tooDeep {frames : List Frame} (frame : Frame) (p : Phase) (h : frames.length = maxDepth) :
    State.enter .all frames frame p = .error .tooDeep := by
  simp [State.enter, h, Scope.passesOver]

theorem delivers_array {items : List Value} (hw : ∀ v ∈ items, v.Whole) (h : ∀ v ∈ items, Delivers v) :
    Delivers (.array items) := by
  intro scope frames k rest hroom _
  rw [Value.depth] at hroom
  have hframes : frames.length < maxDepth := by omega
  have hopen : State.step scope ⟨frames, .value⟩ '[' = .ok ⟨.array [] :: frames, .firstItem⟩ :=
    enter_of_room scope (.array []) .firstItem hframes
  cases items with
  | nil => exact State.run_of_step hopen _
  | cons v vs =>
    have hitems := run_items scope frames hw h [] (.inl rfl) (k + 1) (breaks_newLine k (']' :: rest)) (by omega)
    have hskip : ∀ x, isSpace x = true →
        State.step scope ⟨.array (vs.reverse ++ [v]) :: frames, .afterItem⟩ x =
          .ok ⟨.array (vs.reverse ++ [v]) :: frames, .afterItem⟩ := fun x hx => if_pos hx
    have hclose : State.step scope ⟨.array (vs.reverse ++ [v]) :: frames, .afterItem⟩ ']' =
        .ok (State.deliver frames (.array (vs.reverse ++ [v]).reverse)) := rfl
    simp only [Value.write, List.cons_append, List.append_assoc, List.nil_append]
    rw [State.run_of_step hopen, hitems, run_spaces hskip isSpace_newLine, State.run_of_step hclose,
      List.reverse_append, List.reverse_reverse]
    rfl

theorem delivers_object {members : List (String × Value)} (h : ∀ m ∈ members, Delivers m.2) :
    Delivers (.object members) := by
  intro scope frames k rest hroom _
  rw [Value.depth] at hroom
  have hframes : frames.length < maxDepth := by omega
  have hopen : State.step scope ⟨frames, .value⟩ '\x7b' = .ok ⟨.object [] none :: frames, .firstKey⟩ :=
    enter_of_room scope (.object [] none) .firstKey hframes
  cases members with
  | nil => exact State.run_of_step hopen _
  | cons m ms =>
    have hmembers := run_members scope frames h [] none (.inl rfl) (k + 1) (breaks_newLine k ('\x7d' :: rest))
      (by omega)
    have hskip : ∀ x, isSpace x = true →
        State.step scope ⟨.object (ms.reverse ++ [m]) none :: frames, .afterMember⟩ x =
          .ok ⟨.object (ms.reverse ++ [m]) none :: frames, .afterMember⟩ := fun x hx => if_pos hx
    have hclose : State.step scope ⟨.object (ms.reverse ++ [m]) none :: frames, .afterMember⟩ '\x7d' =
        .ok (State.deliver frames (.object (ms.reverse ++ [m]).reverse)) := rfl
    simp only [Value.write, List.cons_append, List.append_assoc, List.nil_append]
    rw [State.run_of_step hopen, hmembers, run_spaces hskip isSpace_newLine, State.run_of_step hclose,
      List.reverse_append, List.reverse_reverse]
    rfl

theorem delivers {v : Value} (hv : v.Whole) : Delivers v := by
  induction hv with
  | null => exact fun _ _ _ _ _ _ => rfl
  | bool b => cases b <;> exact fun _ _ _ _ _ _ => rfl
  | number h =>
    intro scope frames k rest _ hrest
    obtain ⟨c, tail, rfl, hc⟩ := hrest ⟨_, rfl⟩
    exact run_writeNumber scope frames h hc tail
  | string s => exact fun scope frames _ rest _ _ => run_writeString scope frames s rest
  | array hw ih => exact delivers_array hw ih
  | object _ ih => exact delivers_object ih

theorem refused_array {items : List Value} (hw : ∀ v ∈ items, v.Whole) (h : ∀ v ∈ items, Refused v) :
    Refused (.array items) := by
  intro frames k rest hframes hdeep _
  rw [Value.depth] at hdeep
  rcases Nat.lt_or_eq_of_le hframes with hroom | hfull
  · have hopen : State.step .all ⟨frames, .value⟩ '[' = .ok ⟨.array [] :: frames, .firstItem⟩ :=
      enter_of_room .all (.array []) .firstItem hroom
    cases items with
    | nil =>
      rw [Value.itemsDepth] at hdeep
      omega
    | cons v vs =>
      have hitems := run_items_tooDeep frames hw (fun x hx => delivers (hw x hx)) h [] (.inl rfl) (k + 1)
        (breaks_newLine k (']' :: rest)) hroom (by omega)
      simp only [Value.write, List.cons_append, List.append_assoc, List.nil_append]
      rw [State.run_of_step hopen, hitems]
  · have hopen : State.step .all ⟨frames, .value⟩ '[' = .error .tooDeep :=
      enter_tooDeep (.array []) .firstItem hfull
    cases items <;> exact State.run_of_fault hopen _

theorem refused_object {members : List (String × Value)} (hw : ∀ m ∈ members, m.2.Whole)
    (h : ∀ m ∈ members, Refused m.2) : Refused (.object members) := by
  intro frames k rest hframes hdeep _
  rw [Value.depth] at hdeep
  rcases Nat.lt_or_eq_of_le hframes with hroom | hfull
  · have hopen : State.step .all ⟨frames, .value⟩ '\x7b' = .ok ⟨.object [] none :: frames, .firstKey⟩ :=
      enter_of_room .all (.object [] none) .firstKey hroom
    cases members with
    | nil =>
      rw [Value.membersDepth] at hdeep
      omega
    | cons m ms =>
      have hmembers := run_members_tooDeep frames (fun x hx => delivers (hw x hx)) h [] none (.inl rfl) (k + 1)
        (breaks_newLine k ('\x7d' :: rest)) hroom (by omega)
      simp only [Value.write, List.cons_append, List.append_assoc, List.nil_append]
      rw [State.run_of_step hopen, hmembers]
  · have hopen : State.step .all ⟨frames, .value⟩ '\x7b' = .error .tooDeep :=
      enter_tooDeep (.object [] none) .firstKey hfull
    cases members <;> exact State.run_of_fault hopen _

theorem refused {v : Value} (hv : v.Whole) : Refused v := by
  induction hv with
  | null => exact fun _ _ _ hframes hdeep _ => absurd hframes (Nat.not_le.mpr hdeep)
  | bool b => exact fun _ _ _ hframes hdeep _ => absurd hframes (Nat.not_le.mpr hdeep)
  | number h => exact fun _ _ _ hframes hdeep _ => absurd hframes (Nat.not_le.mpr hdeep)
  | string s => exact fun _ _ _ hframes hdeep _ => absurd hframes (Nat.not_le.mpr hdeep)
  | array hw ih => exact refused_array hw ih
  | object hw ih => exact refused_object hw ih

/-! ## Documents -/

theorem toList_text_append (v : Value) (tail : String) :
    (v.text ++ tail).toList = v.write 0 ++ tail.toList := by
  rw [String.toList_append, Value.text, String.toList_ofList]

section
variable {v : Value} (hv : v.Whole) {tail : String} (hend : v.EndsBefore tail.toList)
include hv hend

/-- A document that is not nested too deep is read back, with blank space behind it or without, whatever is wanted
of it. -/
theorem readWithin_text (scope : Scope) (hspace : ∀ c ∈ tail.toList, isSpace c = true) (hdepth : v.depth ≤ maxDepth) :
    readWithin scope (v.text ++ tail) = .ok v := by
  have hskip : ∀ x, isSpace x = true → State.step scope (State.deliver [] v) x = .ok (State.deliver [] v) :=
    fun x hx => if_pos hx
  have hrun : State.initial.run scope (v.write 0 ++ tail.toList) = .ok ⟨[], .complete v⟩ := by
    have hspaces := run_spaces hskip hspace []
    rw [List.append_nil] at hspaces
    exact (delivers hv scope [] 0 tail.toList ((Nat.zero_add _).trans_le hdepth) hend).trans hspaces
  simp only [readWithin, toList_text_append, hrun, bind, Except.bind]
  rfl

theorem read_text (hspace : ∀ c ∈ tail.toList, isSpace c = true) (hdepth : v.depth ≤ maxDepth) :
    read (v.text ++ tail) = .ok v :=
  readWithin_text hv hend .all hspace hdepth

theorem read_text_tooDeep (hdepth : maxDepth < v.depth) : read (v.text ++ tail) = .error .tooDeep := by
  have hrun : State.initial.run .all (v.write 0 ++ tail.toList) = .error .tooDeep :=
    refused hv [] 0 tail.toList (Nat.zero_le _) (hdepth.trans_eq (Nat.zero_add _).symm) hend
  simp only [read, readWithin, toList_text_append, hrun, bind, Except.bind]

end

end Proximity.Json
