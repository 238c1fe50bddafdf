import Proximity.Analysis.Standard
import Proximity.Proofs.Expression.Joining
import Proximity.Proofs.Expression.Outcome

/-! Expressions that differ on the surface only: in the blanks around their parts, in the case of the letter of
the operator and in zeros in front of its digits. They compile alike, except that a distance out of range is
reported with the operator as it is written. With the letter of the other order the outermost `near` spans of
the tree are turned, and nothing else changes.

* `Respells`: the spellings of an operator, by what becomes of its letter.
* `Node.turned`: a tree with the order of its pairings turned.
* `compile_respelled`: the statement above. -/
namespace Proximity
set_option autoImplicit false

/-! ## Spellings of an operator -/

/-- The same letter, small or large. -/
def SameLetter (c c' : Char) : Prop := c' = c.toLower ∨ c' = c.toUpper

/-- A letter of the other order. -/
def OtherLetter (c c' : Char) : Prop := c' ∈ operatorLetters ∧ ¬ SameLetter c c'

instance (c c' : Char) : Decidable (SameLetter c c') := inferInstanceAs (Decidable (_ ∨ _))

/-- A token with another letter in front, and with zeros between the letter and the digits. -/
inductive Respells (letters : Char → Char → Prop) : List Char → List Char → Prop
  | mk {c c' : Char} (k : ℕ) (ds : List Char) (h : letters c c') :
      Respells letters (c :: ds) (c' :: (List.replicate k '0' ++ ds))

def SpanOrder.turned : SpanOrder → SpanOrder
  | ordered => unordered
  | unordered => ordered

/-- The letters stand for the order `f` makes of the order of the letter they replace. -/
def Orders (letters : Char → Char → Prop) (f : SpanOrder → SpanOrder) : Prop :=
  ∀ c ∈ operatorLetters, ∀ c', letters c c' →
    c' ∈ operatorLetters ∧ SpanOrder.ofLetter? c' = (SpanOrder.ofLetter? c).map f

theorem orders_sameLetter : Orders SameLetter id := by
  intro c hc c' h
  simp only [operatorLetters, List.mem_cons, List.not_mem_nil, or_false] at hc
  rcases hc with rfl | rfl | rfl | rfl <;> rcases h with rfl | rfl <;> exact ⟨by decide, by decide⟩

theorem orders_otherLetter : Orders OtherLetter SpanOrder.turned := by
  rintro c hc c' ⟨hc', hne⟩
  refine ⟨hc', ?_⟩
  simp only [operatorLetters, List.mem_cons, List.not_mem_nil, or_false] at hc hc'
  rcases hc with rfl | rfl | rfl | rfl <;> rcases hc' with rfl | rfl | rfl | rfl <;>
    first
    | rfl
    | exact absurd (by decide) hne

theorem distanceOf_zeros (c c' : Char) (k : ℕ) (ds : List Char) :
    distanceOf (c' :: (List.replicate k '0' ++ ds)) = distanceOf (c :: ds) := by
  have hzeros : Nat.ofDigitChars 10 (List.replicate k '0') 0 = 0 := Nat.ofDigitChars_replicate_zero
  rw [distanceOf, distanceOf, List.tail_cons, List.tail_cons, Nat.ofDigitChars_append, hzeros]

/-- Both spellings are read, at the same distance, or both are out of range. -/
theorem parse_respelled {letters : Char → Char → Prop} {f : SpanOrder → SpanOrder} (hf : Orders letters f)
    {op op' : List Char} (hop : IsOperator op) (h : Respells letters op op') :
    IsOperator op' ∧
    ((∃ o : Operator, Operator.parse (String.ofList op) = .ok o ∧
        Operator.parse (String.ofList op') = .ok ⟨f o.order, o.distance⟩) ∨
      Operator.parse (String.ofList op) = .error (.malformedAt .distanceOutOfRange (String.ofList op)) ∧
        Operator.parse (String.ofList op') = .error (.malformedAt .distanceOutOfRange (String.ofList op'))) := by
  obtain ⟨k, ds, hletters⟩ := h
  rename_i c c'
  obtain ⟨c₀, ds₀, heq, hc, hne, hds⟩ := hop
  obtain ⟨rfl, rfl⟩ := List.cons.inj heq
  obtain ⟨hc', horder⟩ := hf c hc c' hletters
  obtain ⟨o, ho, -⟩ := exists_order hc
  have hne' : List.replicate k '0' ++ ds ≠ [] := List.append_ne_nil_of_right_ne_nil _ hne
  have hds' : ∀ d ∈ List.replicate k '0' ++ ds, d.isDigit = true := by
    intro d hd
    rcases List.mem_append.mp hd with hd | hd
    · rw [List.eq_of_mem_replicate hd]
      rfl
    · exact hds d hd
  have ho' : SpanOrder.ofLetter? c' = some (f o) := by
    rw [horder, ho]
    rfl
  refine ⟨⟨c', _, rfl, hc', hne', hds'⟩, ?_⟩
  rw [parse_cons ho hne hds, parse_cons ho' hne' hds', distanceOf_zeros c c' k ds]
  by_cases hd : distanceOf (c :: ds) < 2 ^ 32
  · rw [if_pos hd, if_pos hd]
    exact .inl ⟨_, rfl, rfl⟩
  · rw [if_neg hd, if_neg hd]
    exact .inr ⟨rfl, rfl⟩

/-! ## Turned trees -/

mutual

/-- A span with the order of its outermost `near` spans turned. -/
def Span.turned : Span → Span
  | .term t => .term t
  | .near clauses slop inOrder => .near clauses slop (!inOrder)
  | .anyOf clauses => .anyOf (Span.turnedAll clauses)

def Span.turnedAll : List Span → List Span
  | [] => []
  | s :: rest => s.turned :: Span.turnedAll rest

end

mutual

/-- A tree with the order of its outermost `near` spans turned. -/
def Node.turned : Node → Node
  | .term t => .term t
  | .span s => .span s.turned
  | .choice clauses minimum => .choice (Clause.turnedAll clauses) minimum
  | .payload t octets => .payload t octets

def Clause.turnedAll : List Clause → List Clause
  | [] => []
  | .mk query required :: rest => .mk query.turned required :: Clause.turnedAll rest

end

theorem Span.turnedAll_eq (ss : List Span) : turnedAll ss = ss.map turned := by
  induction ss with
  | nil => rfl
  | cons s ss ih => rw [turnedAll, ih, List.map_cons]

theorem Clause.turnedAll_append (cs ds : List Clause) : turnedAll (cs ++ ds) = turnedAll cs ++ turnedAll ds := by
  induction cs with
  | nil => rfl
  | cons c cs ih =>
    cases c
    rw [List.cons_append, turnedAll, turnedAll, ih, List.cons_append]

theorem Clause.length_turnedAll (cs : List Clause) : (turnedAll cs).length = cs.length := by
  induction cs with
  | nil => rfl
  | cons c cs ih =>
    cases c
    rw [turnedAll, List.length_cons, List.length_cons, ih]

theorem turnedAll_optionalTerms (field : String) (vs : List String) :
    Clause.turnedAll (optionalTerms field vs) = optionalTerms field vs := by
  induction vs with
  | nil => rfl
  | cons v vs ih => exact congrArg (Clause.optional (.ofTerm field v) :: ·) ih

def Expression.turned (e : Expression) : Expression :=
  ⟨e.left, ⟨e.operator.order.turned, e.operator.distance⟩, e.right⟩

theorem pair_turned (op : Operator) (x y : Span) :
    Operator.pair ⟨op.order.turned, op.distance⟩ x y = (op.pair x y).turned := by
  obtain ⟨o, d⟩ := op
  cases o <;> rfl

theorem pairings_turned (op : Operator) (xs ys : List Span) :
    Operator.pairings ⟨op.order.turned, op.distance⟩ xs ys = (op.pairings xs ys).map Span.turned := by
  simp only [Operator.pairings, pair_turned, List.map_flatMap, List.map_map]
  rfl

theorem span_turned (field : String) (e : Expression) : e.turned.span field = (e.span field).turned := by
  simp only [Expression.span, Expression.turned, pairings_turned, pair_turned]
  cases e.left.side field with
  | fixed left =>
    cases e.right.side field with
    | fixed right => rfl
    | candidates rights => simp only [Span.turned, Span.turnedAll_eq, List.map_map, Function.comp_def]
  | candidates lefts =>
    cases e.right.side field with
    | fixed right => simp only [Span.turned, Span.turnedAll_eq, List.map_map, Function.comp_def]
    | candidates rights => simp only [Span.turned, Span.turnedAll_eq]

theorem clauses_turned (field : String) (e : Expression) :
    e.turned.clauses? field = (e.clauses? field).map Clause.turnedAll := by
  simp only [Expression.clauses?, Expression.turned]
  split
  · rw [Option.map_some, Clause.turnedAll_append, turnedAll_optionalTerms, pair_turned]
    exact congrArg (fun cs => some (_ ++ _ :: cs)) (turnedAll_optionalTerms field _).symm
  · rfl

/-- The operator of the other order turns the tree. -/
theorem compile_turned (field : String) (e : Expression) (mode : Mode) (percent : UInt32) :
    e.turned.compile field mode percent = (e.compile field mode percent).map Node.turned := by
  cases mode with
  | phraseAware =>
    rw [Expression.compile, span_turned]
    rfl
  | looseTerms =>
    simp only [Expression.compile, clauses_turned]
    cases e.clauses? field with
    | none => rfl
    | some cs => simp only [Option.map_some, Clause.length_turnedAll, Except.map, Node.turned]

/-! ## Compiling -/

/-- A refusal with the operator as another token writes it. -/
def Refusal.withOperator (token : String) : Refusal → Refusal
  | .malformed .distanceOutOfRange _ => .malformedAt .distanceOutOfRange token
  | e => e

theorem withOperator_of_classify {field text : String} {analyzer : Analyzer} {phrases : Bool} {e : Refusal}
    (h : Operand.classify field text analyzer phrases = .error e) (token : String) : e.withOperator token = e := by
  rw [Operand.classify] at h
  split at h <;> cases h <;> rfl

theorem withOperator_of_compile {field : String} {x : Expression} {mode : Mode} {percent : UInt32} {e : Refusal}
    (h : x.compile field mode percent = .error e) (token : String) : e.withOperator token = e := by
  cases mode with
  | phraseAware => cases h
  | looseTerms =>
    rw [Expression.compile] at h
    split at h <;> cases h
    rfl

section
variable {letters : Char → Char → Prop} {f : SpanOrder → SpanOrder} {g : Node → Node}
  {raw raw' : String} {s : Split} {op' : List Char}

/-- Two expressions with the same sides and with operators that are spellings of each other. What `f` does to the
order is done to the tree by `g`. -/
theorem compile_same_sides (hf : Orders letters f) (hs : Split.ofExpression raw = .ok s)
    (hs' : Split.ofExpression raw' = .ok ⟨s.left, String.ofList op', s.right⟩)
    (hop : Respells letters s.operator.toList op') (field : String) (analyzer : Analyzer) (mode : Mode)
    (percent : UInt32)
    (hg : ∀ l (o : Operator) r, Expression.compile field ⟨l, ⟨f o.order, o.distance⟩, r⟩ mode percent =
      (Expression.compile field ⟨l, o, r⟩ mode percent).map g) :
    compileProximity field raw' analyzer mode percent =
      ((compileProximity field raw analyzer mode percent).map g).mapError
        (Refusal.withOperator (String.ofList op')) := by
  simp only [compileProximity, Expression.parse, bind, Except.bind, hs, hs']
  cases hl : Operand.classify field s.left analyzer mode.recognizesPhrases with
  | error e => simp only [Except.map, Except.mapError, withOperator_of_classify hl]
  | ok l =>
    cases hr : Operand.classify field s.right analyzer mode.recognizesPhrases with
    | error e => simp only [Except.map, Except.mapError, withOperator_of_classify hr]
    | ok r =>
      rcases (parse_respelled hf (not_operatorAt_side hs).2.1 hop).2 with ⟨o, ho, ho'⟩ | ⟨ho, ho'⟩
      · rw [String.ofList_toList] at ho
        simp only [ho, ho', pure, Except.pure, hg]
        cases hcompile : Expression.compile field ⟨l, o, r⟩ mode percent with
        | error e => simp only [Except.map, Except.mapError, withOperator_of_compile hcompile]
        | ok n => rfl
      · rw [String.ofList_toList] at ho
        simp only [ho, ho']
        rfl

end

/-- Blanks, the case of the letter and zeros change nothing but the fragment of a distance out of range. With a
letter of the other order the tree is turned as well. -/
theorem compile_respelled {raw : String} {s : Split} (hs : Split.ofExpression raw = .ok s)
    {a b c d op' : List Char} (ha : Text.AllBlank a) (hb : Text.AllBlank b) (hc : Text.AllBlank c) (hne : c ≠ [])
    (hd : Text.AllBlank d) (field : String) (analyzer : Analyzer) (mode : Mode) (percent : UInt32) :
    (Respells SameLetter s.operator.toList op' →
      compileProximity field (String.ofList (a ++ (s.left.toList ++ b ++ op' ++ c ++ s.right.toList) ++ d))
          analyzer mode percent =
        (compileProximity field raw analyzer mode percent).mapError
          (Refusal.withOperator (String.ofList op'))) ∧
    (Respells OtherLetter s.operator.toList op' →
      compileProximity field (String.ofList (a ++ (s.left.toList ++ b ++ op' ++ c ++ s.right.toList) ++ d))
          analyzer mode percent =
        ((compileProximity field raw analyzer mode percent).map Node.turned).mapError
          (Refusal.withOperator (String.ofList op'))) := by
  obtain ⟨hl, hop, hr, hfree⟩ := not_operatorAt_side hs
  have hjoin : IsOperator op' → Split.ofExpression
      (String.ofList (a ++ (s.left.toList ++ b ++ op' ++ c ++ s.right.toList) ++ d)) =
        .ok ⟨s.left, String.ofList op', s.right⟩ := by
    intro hop'
    have h := ofExpression_join hl hop' hr ha hb hc hne hd hfree
    rwa [String.ofList_toList, String.ofList_toList] at h
  refine ⟨fun h => ?_, fun h => ?_⟩
  · have hop' := (parse_respelled orders_sameLetter hop h).1
    have hsame := compile_same_sides (g := id) orders_sameLetter hs (hjoin hop') h field analyzer mode percent
      fun l o r => (congrFun Except.map_id _).symm
    rwa [Except.map_id] at hsame
  · have hop' := (parse_respelled orders_otherLetter hop h).1
    exact compile_same_sides orders_otherLetter hs (hjoin hop') h field analyzer mode percent
      fun l o r => compile_turned field ⟨l, o, r⟩ mode percent

/-- A large letter and zeros keep the tree, a letter of the other order turns the pairing but not the phrase. -/
theorem compile_respelled_phrase :
    Split.ofExpression "\"quick fox\" w5 dog" = .ok ⟨"\"quick fox\"", "w5", "dog"⟩ ∧
    Respells SameLetter "w5".toList "W005".toList ∧ Respells OtherLetter "w5".toList "n5".toList ∧
    compileProximity "title" "\"quick fox\"W005  dog " Analysis.whitespace .phraseAware 100 =
      .ok (.span (.near [.phrase "title" ["quick", "fox"], .ofTerm "title" "dog"] 5 true)) ∧
    compileProximity "title" "\"quick fox\"n5  dog " Analysis.whitespace .phraseAware 100 =
      .ok (.span (.near [.phrase "title" ["quick", "fox"], .ofTerm "title" "dog"] 5 false)) := by
  have hs : Split.ofExpression "\"quick fox\" w5 dog" = .ok ⟨"\"quick fox\"", "w5", "dog"⟩ := by decide
  have hraw : compileProximity "title" "\"quick fox\" w5 dog" Analysis.whitespace .phraseAware 100 =
      .ok (.span (.near [.phrase "title" ["quick", "fox"], .ofTerm "title" "dog"] 5 true)) := rfl
  have hsame : Respells SameLetter "w5".toList "W005".toList := .mk 2 ['5'] (.inr rfl)
  have hother : Respells OtherLetter "w5".toList "n5".toList := .mk 0 ['5'] ⟨by decide, by decide⟩
  have hzeros := (compile_respelled (a := []) (b := []) (c := [' ', ' ']) (d := [' ']) hs nofun nofun (by decide)
    (by decide) (by decide) "title" Analysis.whitespace .phraseAware 100).1 hsame
  have hturned := (compile_respelled (a := []) (b := []) (c := [' ', ' ']) (d := [' ']) hs nofun nofun (by decide)
    (by decide) (by decide) "title" Analysis.whitespace .phraseAware 100).2 hother
  rw [hraw] at hzeros hturned
  exact ⟨hs, hsame, hother, hzeros, hturned⟩

end Proximity
