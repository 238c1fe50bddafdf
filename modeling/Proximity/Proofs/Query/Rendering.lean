import Proximity.Analysis.Standard
import Proximity.Capitalization.Expression
import Proximity.Proofs.Expression.Outcome
import Proximity.Proofs.Query.Document
import Proximity.Proofs.Query.Pairing

/-! Printed documents of queries. What is printed is read back as the query unless it is nested too deep, and
the trees of compiled expressions are nested at most seven deep. -/
namespace Proximity
set_option autoImplicit false
open Json

/-! ## Documents of compiled expressions -/

theorem Span.depth_near_le {cs : List Span} {d : ℕ} (slop : UInt32) (inOrder : Bool)
    (h : ∀ c ∈ cs, c.toJson.depth ≤ d) : (near cs slop inOrder).toJson.depth ≤ d + 2 := by
  have hitems := itemsDepth_le (List.forall_mem_map.mpr h)
  rw [depth_near]
  omega

theorem Span.depth_anyOf_le {cs : List Span} {d : ℕ} (h : ∀ c ∈ cs, c.toJson.depth ≤ d) :
    (anyOf cs).toJson.depth ≤ d + 2 := by
  have hitems := itemsDepth_le (List.forall_mem_map.mpr h)
  rw [depth_anyOf]
  omega

theorem Node.depth_choice_le {cs : List Clause} {d : ℕ} (minimum : UInt32)
    (h : ∀ c ∈ cs, c.query.toJson.depth ≤ d) : (choice cs minimum).toJson.depth ≤ d + 3 := by
  have hitems : Value.itemsDepth (cs.map Clause.toJson) ≤ d + 1 := by
    apply itemsDepth_le
    rw [List.forall_mem_map]
    intro c hc
    rw [depth_clause]
    exact Nat.succ_le_succ (h c hc)
  rw [depth_choice]
  omega

theorem depth_alternatives_le {field : String} {o : Operand} :
    ∀ s ∈ o.alternatives field, s.toJson.depth ≤ 3 := by
  intro s hs
  cases o with
  | phrase ts =>
    obtain rfl := List.mem_singleton.mp hs
    apply Span.depth_near_le
    intro c hc
    obtain ⟨v, -, rfl⟩ := List.mem_map.mp hc
    exact (Span.depth_term _).le
  | termSet ts =>
    obtain ⟨v, -, rfl⟩ := List.mem_map.mp hs
    rw [Span.ofTerm, Span.depth_term]
    omega

theorem depth_pair_le (op : Operator) {x y : Span} {d : ℕ} (hx : x.toJson.depth ≤ d) (hy : y.toJson.depth ≤ d) :
    (op.pair x y).toJson.depth ≤ d + 2 := by
  apply Span.depth_near_le
  intro c hc
  rcases List.mem_pair.mp hc with rfl | rfl
  · exact hx
  · exact hy

theorem depth_span_le (field : String) (e : Expression) : (e.span field).toJson.depth ≤ 7 := by
  have hpairs : ∀ s ∈ e.operator.pairings (e.left.alternatives field) (e.right.alternatives field),
      s.toJson.depth ≤ 5 := by
    intro s hs
    obtain ⟨x, hx, hmem⟩ := List.mem_flatMap.mp hs
    obtain ⟨y, hy, rfl⟩ := List.mem_map.mp hmem
    exact depth_pair_le e.operator (depth_alternatives_le x hx) (depth_alternatives_le y hy)
  rcases span_cases field e with ⟨pair, hmem, heq⟩ | heq
  · have hpair := hpairs pair hmem
    rw [heq]
    omega
  · rw [heq]
    exact Span.depth_anyOf_le hpairs

theorem depth_clauses_le {field : String} {e : Expression} {cs : List Clause} (h : e.clauses? field = some cs) :
    ∀ c ∈ cs, c.query.toJson.depth ≤ 3 := by
  have hterms : ∀ vs, ∀ c ∈ optionalTerms field vs, c.query.toJson.depth ≤ 3 := by
    intro vs c hc
    obtain ⟨v, -, rfl⟩ := List.mem_map.mp hc
    have hdepth : (Clause.optional (.ofTerm field v)).query.toJson.depth = 1 := rfl
    omega
  unfold Expression.clauses? at h
  split at h
  · next last first trailing _ _ =>
    obtain rfl := Option.some.inj h
    rw [List.forall_mem_append, List.forall_mem_cons]
    refine ⟨hterms _, ?_, hterms _⟩
    exact (Node.depth_span _).trans_le (depth_pair_le e.operator (Span.depth_term _).le (Span.depth_term _).le)
  · cases h

theorem depth_compile_le {field : String} {e : Expression} {mode : Mode} {percent : UInt32} {n : Node}
    (h : e.compile field mode percent = .ok n) : n.toJson.depth ≤ 7 := by
  rcases compile_ok h with ⟨-, rfl⟩ | ⟨cs, -, hcs, rfl⟩
  · exact (Node.depth_span _).trans_le (depth_span_le field e)
  · exact (Node.depth_choice_le _ (depth_clauses_le hcs)).trans (by decide)

theorem depth_compileProximity_le {field raw : String} {analyzer : Analyzer} {mode : Mode} {percent : UInt32}
    {n : Node} (h : compileProximity field raw analyzer mode percent = .ok n) : n.toJson.depth ≤ 7 := by
  obtain ⟨e, -, hn⟩ := bind_eq_ok h
  exact depth_compile_le hn

theorem depth_compileCapitalization {field raw : String} {analyzer : Analyzer} {n : Node}
    (h : compileCapitalization field raw analyzer = .ok n) : n.toJson.depth = 2 := by
  obtain ⟨e, -, hn⟩ := bind_eq_ok h
  obtain rfl := Except.ok.inj hn
  rfl

/-! ## Printed documents -/

theorem Node.endsBefore (n : Node) (rest : List Char) : n.toJson.EndsBefore rest := by
  rintro ⟨_, h⟩
  cases n <;> simp [toJson] at h

section
variable (n : Node) (colours : Bool)

theorem read_render (h : n.toJson.depth ≤ maxDepth) :
    (Json.read (n.render .json colours) >>= Node.ofJson) = .ok n := by
  have hspace : ∀ c ∈ "\n".toList, isSpace c = true := List.all_eq_true.mp rfl
  have hread : Json.read (n.render .json colours) = .ok n.toJson := read_text n.toJson_whole (n.endsBefore _) hspace h
  rw [hread]
  exact n.ofJson_toJson h

theorem read_render_tooDeep (h : maxDepth < n.toJson.depth) :
    (Json.read (n.render .json colours) >>= Node.ofJson) = .error .tooDeep := by
  have hread : Json.read (n.render .json colours) = .error .tooDeep :=
    read_text_tooDeep n.toJson_whole (n.endsBefore _) h
  rw [hread]
  rfl

end

section
variable (s : Span)

theorem read_span (h : s.toJson.depth ≤ maxDepth) : (Json.read s.toJson.text >>= Span.ofJson) = .ok s := by
  have hread : Json.read (s.toJson.text ++ "") = .ok s.toJson := read_text s.toJson_whole nofun nofun h
  rw [String.append_empty] at hread
  rw [hread]
  exact s.ofJson_toJson h

theorem read_span_tooDeep (h : maxDepth < s.toJson.depth) :
    (Json.read s.toJson.text >>= Span.ofJson) = .error .tooDeep := by
  have hread : Json.read (s.toJson.text ++ "") = .error .tooDeep := read_text_tooDeep s.toJson_whole nofun h
  rw [String.append_empty] at hread
  rw [hread]
  rfl

end

/-- What is printed of a query, or written of a span, is read back as the same tree if it is nested at most 127
deep and refused if it is nested deeper. Compiled trees are always read back. -/
theorem documents_read_back (colours : Bool) :
    (∀ n : Node,
      (n.toJson.depth ≤ 127 → (Json.read (n.render .json colours) >>= Node.ofJson) = .ok n) ∧
      (127 < n.toJson.depth → (Json.read (n.render .json colours) >>= Node.ofJson) = .error .tooDeep)) ∧
    (∀ s : Span,
      (s.toJson.depth ≤ 127 → (Json.read s.toJson.text >>= Span.ofJson) = .ok s) ∧
      (127 < s.toJson.depth → (Json.read s.toJson.text >>= Span.ofJson) = .error .tooDeep)) ∧
    (∀ field raw analyzer mode percent n, compileProximity field raw analyzer mode percent = .ok n →
      (Json.read (n.render .json colours) >>= Node.ofJson) = .ok n) ∧
    ∀ field raw analyzer n, compileCapitalization field raw analyzer = .ok n →
      (Json.read (n.render .json colours) >>= Node.ofJson) = .ok n := by
  refine ⟨fun n => ⟨read_render n colours, read_render_tooDeep n colours⟩,
    fun s => ⟨read_span s, read_span_tooDeep s⟩, ?_, ?_⟩
  · intro field raw analyzer mode percent n h
    have hdepth := depth_compileProximity_le h
    exact read_render n colours (hdepth.trans (by decide))
  · intro field raw analyzer n h
    have hdepth := depth_compileCapitalization h
    exact read_render n colours (hdepth.trans_le (by decide))

/-- A query of all kinds of trees with quotes and controls in its texts, chains of spans on both sides of the
limit, and two compiled expressions. -/
theorem documents_read_back_chains :
    let t : Term := ⟨"\"title\"", "\x00\\\n😀"⟩
    let n : Node := .choice [.mk (.payload t [0, 255]) true, .optional (.term t),
      .optional (.span (.near [.anyOf [], .term t] 4294967295 false))] 0
    let chain : ℕ → Span := fun k => (fun s => .near [s] 0 true)^[k] (.term t)
    let pair : Node := .span (.near [.ofTerm "title" "fox", .phrase "title" ["lazy", "dog"]] 5 true)
    let capital : Node := .payload ⟨"title", "Trump"⟩ [70]
    (n.toJson.depth ≤ 127 ∧ (Json.read (n.render .json false) >>= Node.ofJson) = .ok n) ∧
    (127 < (Node.span (chain 64)).toJson.depth ∧
      (Json.read ((Node.span (chain 64)).render .json false) >>= Node.ofJson) = .error .tooDeep) ∧
    ((chain 63).toJson.depth ≤ 127 ∧ (Json.read (chain 63).toJson.text >>= Span.ofJson) = .ok (chain 63)) ∧
    (127 < (chain 64).toJson.depth ∧ (Json.read (chain 64).toJson.text >>= Span.ofJson) = .error .tooDeep) ∧
    (compileProximity "title" "fox w5 \"lazy dog\"" Analysis.whitespace .phraseAware 0 = .ok pair ∧
      (Json.read (pair.render .json false) >>= Node.ofJson) = .ok pair) ∧
    compileCapitalization "title" "firstcap(Trump)" Analysis.whitespace = .ok capital ∧
      (Json.read (capital.render .json false) >>= Node.ofJson) = .ok capital := by
  intro t n chain pair capital
  obtain ⟨hnodes, hspans, hproximity, hcapitalization⟩ := documents_read_back false
  have hn : n.toJson.depth ≤ 127 := by decide
  have hnode : 127 < (Node.span (chain 64)).toJson.depth := by decide +kernel
  have hat : (chain 63).toJson.depth ≤ 127 := by decide +kernel
  have habove : 127 < (chain 64).toJson.depth := by decide +kernel
  have hpair : compileProximity "title" "fox w5 \"lazy dog\"" Analysis.whitespace .phraseAware 0 = .ok pair := rfl
  have hcapital : compileCapitalization "title" "firstcap(Trump)" Analysis.whitespace = .ok capital := rfl
  exact ⟨⟨hn, (hnodes n).1 hn⟩, ⟨hnode, (hnodes _).2 hnode⟩, ⟨hat, (hspans _).1 hat⟩,
    ⟨habove, (hspans _).2 habove⟩, ⟨hpair, hproximity _ _ _ _ _ _ hpair⟩, hcapital, hcapitalization _ _ _ _ hcapital⟩

end Proximity
