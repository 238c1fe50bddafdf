import Mathlib
import Proximity.Proofs.Query.Row
import Proximity.Proofs.Query.WellFormed

/-! Outlines are unambiguous: a query on one field whose texts keep to their lines can be told from its outline.

* `Branch`: a row and the branches that stand below it. `Span.branch`, `Node.branch`: a query as a branch.
* `Branch.rows_append_inj`: the depths of the lines tell where a branch ends.
* `Node.outline_eq`: the outline of a query is made of the lines of its branch.
* `Node.forall_rows`: what holds of the terms and payloads of a query holds of the rows of its branch.
* `render_tree_inj`: queries with the same outline are the same query. -/
namespace Proximity
set_option autoImplicit false
open Text

/-! ## Branches -/

/-- A row and the branches one step deeper below it. -/
inductive Branch where
  | mk (row : Row) (below : List Branch)

/-- Nothing follows, or a line that is not as deep. -/
def EndsAbove (depth : ℕ) (rows : List (ℕ × Row)) : Prop := ∀ p ∈ rows.head?, p.1 < depth

theorem endsAbove_nil (depth : ℕ) : EndsAbove depth [] := fun _ hp => nomatch hp

namespace Branch

mutual

/-- The lines of a branch, each with its depth. -/
def rows (depth : ℕ) : Branch → List (ℕ × Row)
  | mk row below => (depth, row) :: rowsOf (depth + 1) below

def rowsOf (depth : ℕ) : List Branch → List (ℕ × Row)
  | [] => []
  | b :: rest => b.rows depth ++ rowsOf depth rest

end

theorem endsAbove_rowsOf {depth : ℕ} (bs : List Branch) {rest : List (ℕ × Row)} (h : EndsAbove depth rest) :
    EndsAbove (depth + 1) (rowsOf depth bs ++ rest) := by
  cases bs with
  | nil => exact fun p hp => (h p hp).trans (Nat.lt_succ_self depth)
  | cons b bs =>
    cases b
    rintro p ⟨⟩
    exact Nat.lt_succ_self depth

theorem rowsOf_cons_ne {depth : ℕ} {b : Branch} {bs : List Branch} {rest rest' : List (ℕ × Row)}
    (h : EndsAbove depth rest') : rowsOf depth (b :: bs) ++ rest ≠ rest' := by
  rintro rfl
  cases b
  exact absurd (h _ rfl) (Nat.lt_irrefl depth)

mutual

/-- A branch ends where the depth of the lines falls back. -/
theorem rows_append_inj : ∀ {b b' : Branch} {depth : ℕ} {rest rest' : List (ℕ × Row)}, EndsAbove (depth + 1) rest →
    EndsAbove (depth + 1) rest' → b.rows depth ++ rest = b'.rows depth ++ rest' → b = b' ∧ rest = rest'
  | mk row below, mk row' below', depth, rest, rest', hrest, hrest', h => by
    obtain ⟨hrow, hbelow⟩ := List.cons.inj h
    obtain ⟨rfl, rfl⟩ := rowsOf_append_inj hrest hrest' hbelow
    rw [(Prod.mk.inj hrow).2]
    exact ⟨rfl, rfl⟩

theorem rowsOf_append_inj : ∀ {bs bs' : List Branch} {depth : ℕ} {rest rest' : List (ℕ × Row)}, EndsAbove depth rest →
    EndsAbove depth rest' → rowsOf depth bs ++ rest = rowsOf depth bs' ++ rest' → bs = bs' ∧ rest = rest'
  | [], [], _, _, _, _, _, h => ⟨rfl, h⟩
  | [], _ :: _, _, _, _, hrest, _, h => absurd h.symm (rowsOf_cons_ne hrest)
  | _ :: _, [], _, _, _, _, hrest', h => absurd h (rowsOf_cons_ne hrest')
  | b :: bs, b' :: bs', depth, rest, rest', hrest, hrest', h => by
    rw [rowsOf, rowsOf, List.append_assoc, List.append_assoc] at h
    obtain ⟨rfl, hbs⟩ := rows_append_inj (endsAbove_rowsOf bs hrest) (endsAbove_rowsOf bs' hrest') h
    obtain ⟨rfl, rfl⟩ := rowsOf_append_inj hrest hrest' hbs
    exact ⟨rfl, rfl⟩

end

theorem rows_inj {b b' : Branch} {depth : ℕ} (h : b.rows depth = b'.rows depth) : b = b' := by
  have happend : b.rows depth ++ [] = b'.rows depth ++ [] := congrArg (· ++ []) h
  exact (rows_append_inj (endsAbove_nil _) (endsAbove_nil _) happend).1

end Branch

/-! ## Queries as branches -/

namespace Span

mutual

def branch : Span → Branch
  | term t => ⟨.spanTerm t, []⟩
  | near clauses slop inOrder => ⟨.near slop inOrder, branches clauses⟩
  | anyOf clauses => ⟨.anyOf clauses.length, branches clauses⟩

def branches : List Span → List Branch
  | [] => []
  | s :: rest => s.branch :: branches rest

end

mutual

theorem branch_inj : ∀ {s s' : Span}, s.branch = s'.branch → s = s'
  | term t, s', h => by
    cases s' with
    | term t' => cases h; rfl
    | near => cases h
    | anyOf => cases h
  | near clauses slop inOrder, s', h => by
    cases s' with
    | term => cases h
    | near clauses' slop' inOrder' =>
      obtain ⟨hrow, hbelow⟩ := Branch.mk.inj h
      obtain ⟨rfl, rfl⟩ := Row.near.inj hrow
      rw [branches_inj hbelow]
    | anyOf => cases h
  | anyOf clauses, s', h => by
    cases s' with
    | term => cases h
    | near => cases h
    | anyOf clauses' => rw [branches_inj (Branch.mk.inj h).2]

theorem branches_inj : ∀ {ss ss' : List Span}, branches ss = branches ss' → ss = ss'
  | [], [], _ => rfl
  | s :: ss, s' :: ss', h => by
    obtain ⟨hs, hss⟩ := List.cons.inj h
    rw [branch_inj hs, branches_inj hss]

end

mutual

theorem outline_eq (depth : ℕ) :
    ∀ s : Span, indent depth :: s.outline depth = Row.piecesOf (s.branch.rows depth)
  | term t => rfl
  | near clauses slop inOrder => by
    rw [outline, branch, Branch.rows, Row.piecesOf_cons, ← outlines_eq (depth + 1) clauses]
    rfl
  | anyOf clauses => by
    have hdetails : " (" ++ toString clauses.length ++ " clauses)\n" = (Row.anyOf clauses.length).details ++ "\n" := by
      simp [Row.details, String.append_assoc]
    rw [outline, branch, Branch.rows, Row.piecesOf_cons, ← outlines_eq (depth + 1) clauses, hdetails]
    rfl

theorem outlines_eq (depth : ℕ) :
    ∀ ss : List Span, outlines depth ss = Row.piecesOf (Branch.rowsOf depth (branches ss))
  | [] => rfl
  | s :: rest => by
    rw [outlines, outline_eq depth s, outlines_eq depth rest, branches, Branch.rowsOf, Row.piecesOf_append]

end

end Span

mutual

def Node.branch : Node → Branch
  | .term t => ⟨.term t, []⟩
  | .span s => s.branch
  | .choice clauses minimum => ⟨.choice minimum, Clause.branches clauses⟩
  | .payload t octets => ⟨.payload t octets, []⟩

/-- A required clause stands below a row that says so. -/
def Clause.branch : Clause → Branch
  | .mk query true => ⟨.must, [query.branch]⟩
  | .mk query false => query.branch

def Clause.branches : List Clause → List Branch
  | [] => []
  | c :: rest => c.branch :: Clause.branches rest

end

theorem Node.branch_ne_must (n : Node) (below : List Branch) : n.branch ≠ ⟨.must, below⟩ := by
  cases n with
  | span s => cases s <;> nofun
  | _ => nofun

mutual

theorem Node.branch_inj : ∀ {n n' : Node}, n.branch = n'.branch → n = n'
  | .term t, n', h => by
    cases n' with
    | term t' => cases h; rfl
    | span s => cases s <;> cases h
    | choice => cases h
    | payload => cases h
  | .span s, n', h => by
    cases n' with
    | term => cases s <;> cases h
    | span s' => rw [Span.branch_inj h]
    | choice => cases s <;> cases h
    | payload => cases s <;> cases h
  | .choice clauses minimum, n', h => by
    cases n' with
    | term => cases h
    | span s => cases s <;> cases h
    | choice clauses' minimum' =>
      obtain ⟨hrow, hbelow⟩ := Branch.mk.inj h
      obtain rfl := Row.choice.inj hrow
      rw [Clause.branches_inj hbelow]
    | payload => cases h
  | .payload t octets, n', h => by
    cases n' with
    | term => cases h
    | span s => cases s <;> cases h
    | choice => cases h
    | payload t' octets' => cases h; rfl

theorem Clause.branch_inj : ∀ {c c' : Clause}, c.branch = c'.branch → c = c'
  | .mk query true, .mk query' true, h => by
    rw [Node.branch_inj (List.cons.inj (Branch.mk.inj h).2).1]
  | .mk _ true, .mk query' false, h => absurd h.symm (query'.branch_ne_must _)
  | .mk query false, .mk _ true, h => absurd h (query.branch_ne_must _)
  | .mk query false, .mk query' false, h => by
    rw [Node.branch_inj h]

theorem Clause.branches_inj : ∀ {cs cs' : List Clause}, Clause.branches cs = Clause.branches cs' → cs = cs'
  | [], [], _ => rfl
  | c :: cs, c' :: cs', h => by
    obtain ⟨hc, hcs⟩ := List.cons.inj h
    rw [Clause.branch_inj hc, Clause.branches_inj hcs]

end

mutual

theorem Node.outline_eq (depth : ℕ) :
    ∀ n : Node, n.outline depth = Row.piecesOf (n.branch.rows depth)
  | .term t => rfl
  | .span s => Span.outline_eq depth s
  | .choice clauses minimum => by
    rw [Node.outline, Node.branch, Branch.rows, Row.piecesOf_cons, ← Clause.outlines_eq (depth + 1) clauses]
    rfl
  | .payload t octets => by
    have hdetails : " " ++ t.line ++ " = " ++ decodeLossy octets ++ " (" ++ payloadKeyword octets ++ ")\n" =
        (Row.payload t octets).details ++ "\n" := by
      simp [Row.details, String.append_assoc]
    rw [Node.outline, hdetails]
    rfl

theorem Clause.outline_eq (depth : ℕ) :
    ∀ c : Clause, c.outline depth = Row.piecesOf (c.branch.rows depth)
  | .mk query true => by
    rw [Clause.outline, Clause.branch, Branch.rows, Branch.rowsOf, Branch.rowsOf, List.append_nil, Row.piecesOf_cons,
      ← Node.outline_eq (depth + 1) query]
    rfl
  | .mk query false => Node.outline_eq depth query

theorem Clause.outlines_eq (depth : ℕ) :
    ∀ cs : List Clause, Clause.outlines depth cs = Row.piecesOf (Branch.rowsOf depth (Clause.branches cs))
  | [] => rfl
  | c :: rest => by
    rw [Clause.outlines, Clause.outline_eq depth c, Clause.outlines_eq depth rest, Clause.branches, Branch.rowsOf,
      Row.piecesOf_append]

end

/-! ## Queries on one field -/

mutual

/-- The payloads that a query asks for. -/
def Node.payloads : Node → List (List UInt8)
  | .term _ => []
  | .span _ => []
  | .choice clauses _ => Clause.payloadsOf clauses
  | .payload _ octets => [octets]

def Clause.payloadsOf : List Clause → List (List UInt8)
  | [] => []
  | .mk query _ :: rest => query.payloads ++ Clause.payloadsOf rest

end

/-- A query whose terms are on one field with values of one line, and whose payloads are codes of classes. -/
structure Node.OnLines (field : String) (n : Node) : Prop where
  terms : ∀ t ∈ n.terms, t.OnLine field
  payloads : ∀ octets ∈ n.payloads, ∃ kind : Capitalization, octets = [kind.code]

section
variable {P : Term → Prop} {Q : List UInt8 → Prop}

mutual

theorem Span.forall_rows (depth : ℕ) :
    ∀ s : Span, (∀ t ∈ s.terms, P t) → ∀ p ∈ s.branch.rows depth, p.2.Forall P Q
  | .term t, h => List.forall_mem_singleton.mpr (h t (List.mem_singleton_self t))
  | .near clauses _ _, h => List.forall_mem_cons.mpr ⟨trivial, Span.forall_rowsOf (depth + 1) clauses h⟩
  | .anyOf clauses, h => List.forall_mem_cons.mpr ⟨trivial, Span.forall_rowsOf (depth + 1) clauses h⟩

theorem Span.forall_rowsOf (depth : ℕ) :
    ∀ ss : List Span, (∀ t ∈ Span.termsOf ss, P t) →
      ∀ p ∈ Branch.rowsOf depth (Span.branches ss), p.2.Forall P Q
  | [], _ => nofun
  | s :: rest, h => by
    rw [Span.termsOf, List.forall_mem_append] at h
    rw [Span.branches, Branch.rowsOf, List.forall_mem_append]
    exact ⟨Span.forall_rows depth s h.1, Span.forall_rowsOf depth rest h.2⟩

end

mutual

/-- What holds of the terms and the payloads of a query holds of its rows. -/
theorem Node.forall_rows (depth : ℕ) :
    ∀ n : Node, (∀ t ∈ n.terms, P t) → (∀ o ∈ n.payloads, Q o) → ∀ p ∈ n.branch.rows depth, p.2.Forall P Q
  | .term t, h, _ => List.forall_mem_singleton.mpr (h t (List.mem_singleton_self t))
  | .span s, h, _ => Span.forall_rows depth s h
  | .choice clauses _, h, ho => List.forall_mem_cons.mpr ⟨trivial, Clause.forall_rowsOf (depth + 1) clauses h ho⟩
  | .payload t octets, h, ho =>
    List.forall_mem_singleton.mpr ⟨h t (List.mem_singleton_self t), ho octets (List.mem_singleton_self octets)⟩

theorem Clause.forall_rowsOf (depth : ℕ) :
    ∀ cs : List Clause, (∀ t ∈ Clause.termsOf cs, P t) → (∀ o ∈ Clause.payloadsOf cs, Q o) →
      ∀ p ∈ Branch.rowsOf depth (Clause.branches cs), p.2.Forall P Q
  | [], _, _ => nofun
  | .mk query required :: rest, h, ho => by
    rw [Clause.termsOf, List.forall_mem_append] at h
    rw [Clause.payloadsOf, List.forall_mem_append] at ho
    rw [Clause.branches, Branch.rowsOf, List.forall_mem_append]
    refine ⟨?_, Clause.forall_rowsOf depth rest h.2 ho.2⟩
    cases required with
    | false => exact Node.forall_rows depth query h.1 ho.1
    | true =>
      rw [Clause.branch, Branch.rows, Branch.rowsOf, Branch.rowsOf, List.append_nil, List.forall_mem_cons]
      exact ⟨trivial, Node.forall_rows (depth + 1) query h.1 ho.1⟩

end

end

section
variable {field : String}

theorem Node.onLine_rows (depth : ℕ) (n : Node) (h : ∀ t ∈ n.terms, t.OnLine field)
    (ho : ∀ o ∈ n.payloads, ∃ kind : Capitalization, o = [kind.code]) :
    ∀ p ∈ n.branch.rows depth, p.2.OnLine field :=
  fun p hp => Row.onLine_iff_forall.mpr (n.forall_rows depth h ho p hp)

theorem toList_render_tree (n : Node) : (n.render .tree false).toList = Row.linesOf (n.branch.rows 0) := by
  change (plain (n.outline 0)).toList = _
  rw [n.outline_eq 0, Row.toList_plain_piecesOf]

/-- Two queries on one field, with values of one line and with codes of classes as payloads, have the same outline only
if they are the same query. -/
theorem render_tree_inj (hfield : '\n' ∉ field.toList) {n n' : Node} (h : n.OnLines field) (h' : n'.OnLines field) :
    n.render .tree false = n'.render .tree false ↔ n = n' := by
  refine ⟨fun hrender => ?_, fun heq => heq ▸ rfl⟩
  have hlines : Row.linesOf (n.branch.rows 0) = Row.linesOf (n'.branch.rows 0) := by
    rw [← toList_render_tree, hrender, toList_render_tree]
  have hrows : n.branch.rows 0 = n'.branch.rows 0 :=
    Row.linesOf_inj hfield (n.onLine_rows 0 h.terms h.payloads) (n'.onLine_rows 0 h'.terms h'.payloads) hlines
  exact Node.branch_inj (Branch.rows_inj hrows)

end

/-- Values that look like the end of a payload line, and spans that differ in the depth of their last term. -/
theorem render_tree_inj_lookalikes :
    let a : Span := .term ⟨"t", "span t:b"⟩
    let b : Span := .term ⟨"t", "b"⟩
    let n : Node := .choice [.mk (.payload ⟨"t", "x = A (allcap)"⟩ [70]) true,
      .optional (.span (.near [.near [a] 0 true, b] 2 false))] 1
    let n' : Node := .choice [.mk (.payload ⟨"t", "x = A (allcap)"⟩ [70]) true,
      .optional (.span (.near [.near [a, b] 0 true] 2 false))] 1
    '\n' ∉ "t".toList ∧ n.OnLines "t" ∧ n'.OnLines "t" ∧ n ≠ n' ∧ n.render .tree false ≠ n'.render .tree false := by
  intro a b n n'
  have hfield : '\n' ∉ "t".toList := by decide
  have hn : n.OnLines "t" := ⟨by decide, List.forall_mem_singleton.mpr ⟨.firstCap, rfl⟩⟩
  have hn' : n'.OnLines "t" := ⟨by decide, List.forall_mem_singleton.mpr ⟨.firstCap, rfl⟩⟩
  have hne : n ≠ n' := by simp [n, n', Clause.optional]
  exact ⟨hfield, hn, hn', hne, mt (render_tree_inj hfield hn hn').mp hne⟩

end Proximity
