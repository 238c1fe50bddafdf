import Proximity.Proofs.Query.Outline
import Proximity.Proofs.Text.Styled
import Proximity.Proofs.Text.Utf8

/-! Colours and content. Where neither a query nor a token has an escape character of its own, the coloured form is
the plain form with escape sequences added: deleting all of them gives the plain form. Only outlines and lists of
tokens have colours.

* `Node.EscapeFree`: the queries whose texts and payloads have no escape character.
* `Node.escapeFree_outline`: no piece of their outlines has one.
* `unstyled_colours`: the statement above. -/
namespace Proximity
set_option autoImplicit false
open Text

/-! ## Queries without escape characters -/

/-- A term whose field and value have no escape character. -/
def Term.EscapeFree (t : Term) : Prop := Text.EscapeFree t.field ∧ Text.EscapeFree t.value

instance (t : Term) : Decidable t.EscapeFree := instDecidableAnd

/-- A query whose texts have no escape character and whose payloads have no octet of one. -/
structure Node.EscapeFree (n : Node) : Prop where
  terms : ∀ t ∈ n.terms, t.EscapeFree
  payloads : ∀ octets ∈ n.payloads, 0x1B ∉ octets

theorem Term.EscapeFree.line {t : Term} (h : t.EscapeFree) : '\x1b' ∉ t.line.toList := by
  have hcolon : Text.EscapeFree ":" := by decide
  exact escapeFree_append.mpr ⟨escapeFree_append.mpr ⟨h.1, hcolon⟩, h.2⟩

theorem escape_notMem_decodeLossy {octets : List UInt8} (h : 0x1B ∉ octets) : '\x1b' ∉ (decodeLossy octets).toList := by
  have hascii : IsAscii 0x1B := ⟨by decide, by decide⟩
  exact mt (mem_of_mem_decodeLossy hascii) h

/-! ## Outlines -/

theorem escapeFree_pieces {r : Row} (h : r.Forall Term.EscapeFree (0x1B ∉ ·)) (depth : ℕ) :
    ∀ p ∈ r.pieces depth, Text.EscapeFree p.text := by
  have htext : '\x1b' ∉ r.text :=
    Row.control_notMem_text (by decide) (h.imp (fun _ => Term.EscapeFree.line) fun _ => escape_notMem_decodeLossy)
  obtain ⟨hlabel, hdetails⟩ := not_or.mp (mt List.mem_append.mpr htext)
  have hindent : Text.EscapeFree (indent depth).text := by
    intro hmem
    rw [indent, Piece.ofText, String.toList_ofList] at hmem
    exact absurd (List.eq_of_mem_replicate hmem) (by decide)
  have hend : Text.EscapeFree "\n" := by decide
  intro p hp
  rcases List.mem_cons.mp hp with rfl | hp
  · exact hindent
  rcases List.mem_pair.mp hp with rfl | rfl
  · exact hlabel
  · exact escapeFree_append.mpr ⟨hdetails, hend⟩

theorem Node.escapeFree_outline {n : Node} (h : n.EscapeFree) (depth : ℕ) :
    ∀ p ∈ n.outline depth, Text.EscapeFree p.text := by
  intro p hp
  rw [n.outline_eq depth] at hp
  obtain ⟨row, hrow, hpiece⟩ := List.mem_flatMap.mp hp
  exact escapeFree_pieces (n.forall_rows depth h.terms h.payloads row hrow) row.1 p hpiece

/-! ## Lists of tokens -/

theorem escapeFree_listingLine {token : String} (h : Text.EscapeFree token) :
    ∀ p ∈ Capitalization.listingLine token, Text.EscapeFree p.text := by
  have htab : Text.EscapeFree "\t" := by decide
  have htoken : Text.EscapeFree (token ++ "\t") := escapeFree_append.mpr ⟨h, htab⟩
  unfold Capitalization.listingLine
  split
  · next kind _ =>
    have hkeyword : Text.EscapeFree kind.keyword := by cases kind <;> decide
    have hcode : Text.EscapeFree (" (" ++ String.ofList [kind.codeChar] ++ ")\n") := by cases kind <;> decide
    simp only [List.forall_mem_cons]
    exact ⟨htoken, hkeyword, hcode, List.forall_mem_nil _⟩
  · have hdash : Text.EscapeFree "-\n" := by decide
    simp only [List.forall_mem_cons]
    exact ⟨htoken, hdash, List.forall_mem_nil _⟩

/-- The coloured outline of a query and the coloured list of tokens are the plain ones with escape sequences added, as
long as no text has an escape character. Lines and documents are the same with colours and without. -/
theorem unstyled_colours :
    (∀ n : Node, n.EscapeFree → unstyled (n.render .tree true) = n.render .tree false) ∧
      (∀ n : Node, n.render .line true = n.render .line false ∧ n.render .json true = n.render .json false) ∧
      ∀ tokens : List String, (∀ token ∈ tokens, Text.EscapeFree token) →
        unstyled (Capitalization.listing tokens true) = Capitalization.listing tokens false := by
  refine ⟨fun n h => ?_, fun n => ⟨rfl, rfl⟩, fun tokens h => ?_⟩
  · exact unstyled_painted (n.escapeFree_outline h 0)
  · refine unstyled_painted fun p hp => ?_
    obtain ⟨token, htoken, hpiece⟩ := List.mem_flatMap.mp hp
    exact escapeFree_listingLine (h token htoken) p hpiece

/-- Texts that look like the rest of an escape sequence, octets that are not text, and tokens of both kinds. -/
theorem unstyled_colours_brackets :
    let n : Node := .choice [.mk (.payload ⟨"[0m", "[1m[31m"⟩ [0xC3, 0x28, 0xED]) true,
      .optional (.span (.near [.anyOf [.term ⟨"t", "[m"⟩], .term ⟨"t", "0m"⟩] 32 false))] 1
    (n.EscapeFree ∧ unstyled (n.render .tree true) = n.render .tree false ∧
      n.render .tree true ≠ n.render .tree false) ∧
    (∀ token ∈ ["[32mFox", "[0m"], Text.EscapeFree token) ∧
      unstyled (Capitalization.listing ["[32mFox", "[0m"] true) = "[32mFox\tcap (C)\n[0m\t-\n" := by
  intro n
  obtain ⟨houtlines, -, hlistings⟩ := unstyled_colours
  have hn : n.EscapeFree := ⟨by decide, by decide⟩
  have hcolours : n.render .tree true ≠ n.render .tree false := by decide
  have htokens : ∀ token ∈ ["[32mFox", "[0m"], Text.EscapeFree token := by decide
  have hplain : Capitalization.listing ["[32mFox", "[0m"] false = "[32mFox\tcap (C)\n[0m\t-\n" := rfl
  exact ⟨⟨hn, houtlines n hn, hcolours⟩, htokens, (hlistings _ htokens).trans hplain⟩

end Proximity
