import Proximity.Proofs.Json.Record
import Proximity.Proofs.Json.RoundTrip
import Proximity.Query.Rendering

/-! Documents of queries are read back to the queries. Reading and writing are separate recursions over the
tree; they meet in one step for each kind of span and of query, which takes the trees inside it as read. -/
namespace Proximity
set_option autoImplicit false
open Json

/-! ## Terms -/

theorem Term.ofRecord_members (t : Term) : Term.ofRecord (.members t.members) = .ok t := by
  have hfield : (Record.members t.members).field layout "field" asString = .ok t.field :=
    field_member (v := .string t.field) layout rfl rfl
  have hvalue : (Record.members t.members).field layout "value" asString = .ok t.value :=
    field_member (v := .string t.value) layout rfl rfl
  rw [Term.ofRecord, hfield, hvalue]
  rfl

theorem Term.ofJson_members (t : Term) : Term.ofJson (.object t.members) = .ok t := t.ofRecord_members

theorem Term.members_whole (t : Term) : ∀ m ∈ t.members, m.2.Whole := by
  simp only [Term.members, List.forall_mem_cons]
  exact ⟨.string _, .string _, nofun⟩

/-! ## Spans -/

namespace Span

theorem toJsons_eq_map (cs : List Span) : toJsons cs = cs.map toJson := by
  induction cs with
  | nil => rfl
  | cons c cs ih => rw [toJsons, ih, List.map_cons, toJson]

/-! ### The shape of a document -/

mutual

theorem members_whole : ∀ s : Span, ∀ m ∈ s.members, m.2.Whole
  | term t => by
    rw [members, List.forall_mem_cons]
    exact ⟨.string _, t.members_whole⟩
  | near cs slop inOrder => by
    simp only [members, List.forall_mem_cons]
    exact ⟨.string _, .array (toJsons_whole cs), Value.whole_natural (slop.toNat_lt.trans (by decide)), .bool _, nofun⟩
  | anyOf cs => by
    simp only [members, List.forall_mem_cons]
    exact ⟨.string _, .array (toJsons_whole cs), nofun⟩

theorem toJsons_whole : ∀ cs : List Span, ∀ v ∈ toJsons cs, v.Whole
  | [] => nofun
  | c :: cs => by
    rw [toJsons, List.forall_mem_cons]
    exact ⟨.object c.members_whole, toJsons_whole cs⟩

end

theorem toJson_whole (s : Span) : s.toJson.Whole := .object s.members_whole

theorem depth_term (t : Term) : (term t).toJson.depth = 1 := rfl

theorem depth_near (cs : List Span) (slop : UInt32) (inOrder : Bool) :
    (near cs slop inOrder).toJson.depth = Value.itemsDepth (cs.map toJson) + 2 := by
  simp [toJson, members, Value.depth, Value.membersDepth, Value.natural, toJsons_eq_map]

theorem depth_anyOf (cs : List Span) : (anyOf cs).toJson.depth = Value.itemsDepth (cs.map toJson) + 2 := by
  simp [toJson, members, Value.depth, Value.membersDepth, toJsons_eq_map]

theorem depth_mem {c : Span} {cs : List Span} (h : c ∈ cs) :
    c.toJson.depth < Value.itemsDepth (cs.map toJson) + 2 :=
  (depth_le_itemsDepth (List.mem_map_of_mem h)).trans_lt (Nat.lt_add_of_pos_right Nat.two_pos)

/-- The tag of a query is not the name of a member of any span, so both tags can share one object. -/
theorem members_ne_type (s : Span) : ∀ m ∈ s.members, m.1 ≠ Node.union.tag := by
  cases s <;> simp [members, Term.members, Node.union]

/-! ### Reading -/

section
variable {inner : Value → Except Fault Span} {cs : List Span} (hcs : ∀ c ∈ cs, inner c.toJson = .ok c)
include hcs

theorem ofFields_near (slop : UInt32) (inOrder : Bool) :
    ofFields inner .near (.members [("clauses", .array (cs.map toJson)), ("slop", .natural slop.toNat),
      ("in_order", .bool inOrder)]) = .ok (near cs slop inOrder) := by
  rw [ofFields, field_member nearLayout rfl (asList_map hcs), field_member nearLayout rfl (asUInt32_natural slop),
    field_member (v := .bool inOrder) (a := inOrder) nearLayout rfl rfl]
  rfl

theorem ofFields_anyOf :
    ofFields inner .anyOf (.members [("clauses", .array (cs.map toJson))]) = .ok (anyOf cs) := by
  rw [ofFields, field_member anyOfLayout rfl (asList_map hcs)]
  rfl

end

/-- A span is read back at any level if all spans of less depth are. -/
theorem split_toJson {inner : Value → Except Fault Span} (level : Level) (s : Span)
    (h : ∀ c : Span, c.toJson.depth < s.toJson.depth → inner c.toJson = .ok c) :
    (union.split level s.toJson >>= fun (kind, r) => ofFields inner kind r) = .ok s := by
  cases s with
  | term t =>
    have hsplit : union.split level (term t).toJson = .ok (.term, .members t.members) :=
      split_tagged level rfl (by simp [Term.members, union])
    rw [hsplit]
    simp only [bind, Except.bind, ofFields, t.ofRecord_members]
    rfl
  | near cs slop inOrder =>
    have hsplit : union.split level (near cs slop inOrder).toJson =
        .ok (.near, .members [("clauses", .array (cs.map toJson)), ("slop", .natural slop.toNat),
          ("in_order", .bool inOrder)]) := by
      rw [← toJsons_eq_map]
      exact split_tagged level rfl (by simp [union])
    have hcs : ∀ c ∈ cs, inner c.toJson = .ok c := by
      intro c hc
      apply h
      rw [depth_near]
      exact depth_mem hc
    rw [hsplit]
    exact ofFields_near hcs slop inOrder
  | anyOf cs =>
    have hsplit : union.split level (anyOf cs).toJson =
        .ok (.anyOf, .members [("clauses", .array (cs.map toJson))]) := by
      rw [← toJsons_eq_map]
      exact split_tagged level rfl (by simp [union])
    have hcs : ∀ c ∈ cs, inner c.toJson = .ok c := by
      intro c hc
      apply h
      rw [depth_anyOf]
      exact depth_mem hc
    rw [hsplit]
    exact ofFields_anyOf hcs

theorem ofInner_toJson {d : ℕ} (s : Span) (hs : s.toJson.depth ≤ d) : ofInner d s.toJson = .ok s := by
  -- on the depth allowed: the spans inside have less of it, whatever the kind of the span
  induction d generalizing s with
  | zero => cases s <;> cases hs
  | succ d ih => exact split_toJson .inside s fun c hc => ih c (by omega)

theorem ofJson_toJson (s : Span) (hs : s.toJson.depth ≤ maxDepth) : ofJson s.toJson = .ok s :=
  split_toJson .outermost s fun c hc => ofInner_toJson c (hc.le.trans hs)

end Span

/-! ## Queries -/

theorem Clause.toJsons_eq_map (cs : List Clause) : Clause.toJsons cs = cs.map Clause.toJson := by
  induction cs with
  | nil => rfl
  | cons c cs ih => rw [Clause.toJsons, ih, List.map_cons]

namespace Node

/-! ### The shape of a document -/

mutual

theorem toJson_whole : ∀ n : Node, n.toJson.Whole
  | term t => by
    rw [toJson]
    exact .object (List.forall_mem_cons.mpr ⟨.string _, t.members_whole⟩)
  | span s => by
    rw [toJson]
    exact .object (List.forall_mem_cons.mpr ⟨.string _, s.members_whole⟩)
  | choice cs minimum => by
    rw [toJson]
    apply Value.Whole.object
    simp only [List.forall_mem_cons]
    exact ⟨.string _, .array (clauses_whole cs), Value.whole_natural (minimum.toNat_lt.trans (by decide)), nofun⟩
  | payload t octets => by
    rw [toJson]
    apply Value.Whole.object
    simp only [List.forall_mem_cons]
    refine ⟨.string _, .object t.members_whole, .array (List.forall_mem_map.mpr fun b _ => ?_), nofun⟩
    exact Value.whole_natural (b.toNat_lt.trans (by decide))

theorem clauses_whole : ∀ cs : List Clause, ∀ v ∈ Clause.toJsons cs, v.Whole
  | [] => nofun
  | .mk query required :: cs => by
    rw [Clause.toJsons, List.forall_mem_cons, Clause.toJson]
    refine ⟨.object ?_, clauses_whole cs⟩
    simp only [List.forall_mem_cons]
    exact ⟨query.toJson_whole, .bool _, nofun⟩

end

theorem depth_span (s : Span) : (span s).toJson.depth = s.toJson.depth := by
  simp [toJson, Span.toJson, Value.depth, Value.membersDepth]

theorem depth_clause (c : Clause) : c.toJson.depth = c.query.toJson.depth + 1 := by
  cases c
  simp [Clause.toJson, Clause.query, Value.depth, Value.membersDepth]

theorem depth_choice (cs : List Clause) (minimum : UInt32) :
    (choice cs minimum).toJson.depth = Value.itemsDepth (cs.map Clause.toJson) + 2 := by
  simp [toJson, Value.depth, Value.membersDepth, Value.natural, Clause.toJsons_eq_map]

/-! ### Reading -/

theorem clauseOfJson_toJson {inner : Value → Except Fault Node} {c : Clause}
    (h : inner c.query.toJson = .ok c.query) : clauseOfJson inner c.toJson = .ok c := by
  cases c with
  | mk query required =>
    have hquery : inner query.toJson = .ok query := h
    simp only [clauseOfJson, Clause.toJson, Record.ofValue, bind, Except.bind]
    rw [field_member clauseLayout rfl hquery,
      field_member (v := .bool required) (a := required) clauseLayout rfl rfl]
    rfl

theorem ofFields_choice {inner : Value → Except Fault Node} {cs : List Clause}
    (hcs : ∀ c ∈ cs, inner c.query.toJson = .ok c.query) (minimum : UInt32) :
    ofFields inner .choice (.members [("clauses", .array (cs.map Clause.toJson)),
      ("minimum_should_match", .natural minimum.toNat)]) = .ok (choice cs minimum) := by
  have hclauses := asList_map fun c hc => clauseOfJson_toJson (hcs c hc)
  rw [ofFields, field_member choiceLayout rfl hclauses, field_member choiceLayout rfl (asUInt32_natural minimum)]
  rfl

theorem ofFields_payload (inner : Value → Except Fault Node) (t : Term) (octets : List UInt8) :
    ofFields inner .payload (.members [("term", .object t.members),
      ("payload", .array (octets.map fun b => .natural b.toNat))]) = .ok (payload t octets) := by
  have hoctets := asList_map fun b (_ : b ∈ octets) => asUInt8_natural b
  rw [ofFields, field_member payloadLayout rfl t.ofJson_members, field_member payloadLayout rfl hoctets]
  rfl

/-- A query is read back at any level if all queries of less depth are. -/
theorem split_toJson {inner : Value → Except Fault Node} (level : Level) (n : Node)
    (hn : n.toJson.depth ≤ maxDepth) (h : ∀ m : Node, m.toJson.depth < n.toJson.depth → inner m.toJson = .ok m) :
    (union.split level n.toJson >>= fun (kind, r) => ofFields inner kind r) = .ok n := by
  cases n with
  | term t =>
    have hsplit : union.split level (term t).toJson = .ok (.term, .members t.members) := by
      rw [toJson]
      exact split_tagged level rfl (by simp [Term.members, union])
    rw [hsplit]
    simp only [bind, Except.bind, ofFields, t.ofRecord_members]
    rfl
  | span s =>
    have hsplit : union.split level (span s).toJson = .ok (.span, .members s.members) := by
      rw [toJson]
      exact split_tagged level rfl s.members_ne_type
    -- the span starts over with the whole depth, since its members stand in the object of the query
    have hs : Span.ofRecord (.members s.members) = .ok s := s.ofInner_toJson (depth_span s ▸ hn)
    rw [hsplit]
    simp only [bind, Except.bind, ofFields, hs]
    rfl
  | choice cs minimum =>
    have hsplit : union.split level (choice cs minimum).toJson =
        .ok (.choice, .members [("clauses", .array (cs.map Clause.toJson)),
          ("minimum_should_match", .natural minimum.toNat)]) := by
      rw [toJson, Clause.toJsons_eq_map]
      exact split_tagged level rfl (by simp [union])
    have hcs : ∀ c ∈ cs, inner c.query.toJson = .ok c.query := by
      intro c hc
      have hdepth := depth_le_itemsDepth (List.mem_map_of_mem (f := Clause.toJson) hc)
      rw [depth_clause] at hdepth
      apply h
      rw [depth_choice]
      omega
    rw [hsplit]
    exact ofFields_choice hcs minimum
  | payload t octets =>
    have hsplit : union.split level (payload t octets).toJson =
        .ok (.payload, .members [("term", .object t.members),
          ("payload", .array (octets.map fun b => .natural b.toNat))]) := by
      rw [toJson]
      exact split_tagged level rfl (by simp [union])
    rw [hsplit]
    exact ofFields_payload inner t octets

theorem ofInner_toJson {d : ℕ} (hd : d ≤ maxDepth) (n : Node) (hn : n.toJson.depth ≤ d) :
    ofInner d n.toJson = .ok n := by
  induction d generalizing n with
  | zero =>
    exfalso
    cases n <;> simp [toJson, Value.depth] at hn
  | succ d ih => exact split_toJson .inside n (hn.trans hd) fun m hm => ih (by omega) m (by omega)

theorem ofJson_toJson (n : Node) (hn : n.toJson.depth ≤ maxDepth) : ofJson n.toJson = .ok n :=
  split_toJson .outermost n hn fun m hm => ofInner_toJson le_rfl m (hm.le.trans hn)

end Node

end Proximity
