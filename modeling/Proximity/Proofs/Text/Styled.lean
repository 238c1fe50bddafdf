import Mathlib
import Proximity.Text.Styled

/-! Text with styles and the same text without them. An escape sequence of a style is an escape character, a bracket,
digits and an `m`. Where no text has an escape character of its own, deleting these sequences from painted pieces
leaves the plain ones, whatever brackets, digits and letters stand in the texts.

* `withoutStyleCodes`: a text from which these sequences are deleted.
* `unstyled_painted`: painted pieces without the sequences are the plain pieces. -/
namespace Proximity.Text
set_option autoImplicit false

/-! ## Pieces -/

theorem paintedIf_cons (colours : Bool) (p : Piece) (ps : List Piece) :
    paintedIf colours (p :: ps) = paintedIf colours [p] ++ paintedIf colours ps := by
  cases colours
  · simp [paintedIf, plain, String.join_cons]
  · simp [paintedIf, painted, String.join_cons]

theorem paintedIf_append (colours : Bool) (ps qs : List Piece) :
    paintedIf colours (ps ++ qs) = paintedIf colours ps ++ paintedIf colours qs := by
  cases colours
  · simp [paintedIf, plain, String.join_append]
  · simp [paintedIf, painted, String.join_append]

theorem paintedIf_ofText (colours : Bool) (s : String) : paintedIf colours [.ofText s] = s := by
  cases colours <;> simp [paintedIf, plain, painted, Piece.ofText, Piece.painted]

/-! ## Escape sequences -/

/-- What stands behind an escape character, a bracket, at least one digit and an `m` at the front of a text. -/
def behindStyleCode? : List Char → Option (List Char)
  | '\x1b' :: '[' :: d :: cs =>
    match cs.dropWhile Char.isDigit with
    | 'm' :: rest => if d.isDigit then some rest else none
    | _ => none
  | _ => none

theorem length_behindStyleCode {cs rest : List Char} (h : behindStyleCode? cs = some rest) :
    rest.length < cs.length := by
  unfold behindStyleCode? at h
  split at h
  · next d cs =>
    have hdrop := (List.dropWhile_suffix (l := cs) Char.isDigit).length_le
    split at h
    · next rest' heq =>
      split at h
      · obtain rfl := Option.some.inj h
        rw [heq, List.length_cons] at hdrop
        simp only [List.length_cons]
        omega
      · cases h
    · cases h
  · cases h

/-- A text from which every sequence of an escape character, a bracket, digits and an `m` is deleted. -/
def withoutStyleCodes (cs : List Char) : List Char :=
  match cs with
  | [] => []
  | c :: cs =>
    match _h : behindStyleCode? (c :: cs) with
    | some rest => withoutStyleCodes rest
    | none => c :: withoutStyleCodes cs
termination_by cs.length
decreasing_by
  · exact length_behindStyleCode _h
  · exact Nat.lt_succ_self _

/-- A string without the escape sequences of styles. -/
def unstyled (s : String) : String := String.ofList (withoutStyleCodes s.toList)

theorem withoutStyleCodes_nil : withoutStyleCodes [] = [] := by rw [withoutStyleCodes]

theorem withoutStyleCodes_of_some {c : Char} {cs rest : List Char} (h : behindStyleCode? (c :: cs) = some rest) :
    withoutStyleCodes (c :: cs) = withoutStyleCodes rest := by
  rw [withoutStyleCodes]
  split
  · next rest' h' => rw [Option.some.inj (h'.symm.trans h)]
  · next h' => cases h'.symm.trans h

theorem withoutStyleCodes_of_none {c : Char} {cs : List Char} (h : behindStyleCode? (c :: cs) = none) :
    withoutStyleCodes (c :: cs) = c :: withoutStyleCodes cs := by
  rw [withoutStyleCodes]
  split
  · next h' => cases h'.symm.trans h
  · rfl

/-! ## Texts and styles -/

/-- A text without an escape character. -/
def EscapeFree (s : String) : Prop := '\x1b' ∉ s.toList

instance (s : String) : Decidable (EscapeFree s) := instDecidableNot

theorem escapeFree_append {s t : String} : EscapeFree (s ++ t) ↔ EscapeFree s ∧ EscapeFree t := by
  simp [EscapeFree, not_or]

theorem behindStyleCode_of_ne {c : Char} (h : c ≠ '\x1b') (cs : List Char) : behindStyleCode? (c :: cs) = none := by
  unfold behindStyleCode?
  split
  · next heq => exact absurd (List.cons.inj heq).1 h
  · rfl

theorem withoutStyleCodes_append {a : List Char} (h : '\x1b' ∉ a) (b : List Char) :
    withoutStyleCodes (a ++ b) = a ++ withoutStyleCodes b := by
  induction a with
  | nil => rfl
  | cons c a ih =>
    obtain ⟨hc, ha⟩ := List.ne_and_not_mem_of_not_mem_cons h
    rw [List.cons_append, withoutStyleCodes_of_none (behindStyleCode_of_ne hc.symm _), ih ha, List.cons_append]

/-- An escape sequence of a style is deleted as a whole, whatever follows it. -/
theorem withoutStyleCodes_styleCode {d : Char} {ds : List Char} (h : (d :: ds).all Char.isDigit = true)
    (rest : List Char) : withoutStyleCodes ((styleCode (d :: ds)).toList ++ rest) = withoutStyleCodes rest := by
  rw [List.all_eq_true, List.forall_mem_cons] at h
  have hdrop : (ds ++ 'm' :: rest).dropWhile Char.isDigit = 'm' :: rest := by
    rw [List.dropWhile_append_of_pos h.2, List.dropWhile_cons_of_neg (by decide)]
  have htext : (styleCode (d :: ds)).toList ++ rest = '\x1b' :: '[' :: d :: (ds ++ 'm' :: rest) := by
    simp [styleCode]
  rw [htext]
  apply withoutStyleCodes_of_some
  simp only [behindStyleCode?, hdrop, if_pos h.1]

theorem withoutStyleCodes_start (s : Style) (rest : List Char) :
    withoutStyleCodes (s.start.toList ++ rest) = withoutStyleCodes rest := by
  have hcolour : ['3', s.colour.digit].all Char.isDigit = true := by cases s.colour <;> rfl
  rw [Style.start, String.toList_append, String.toList_append, List.append_assoc, List.append_assoc,
    withoutStyleCodes_styleCode rfl]
  split
  · rw [withoutStyleCodes_styleCode rfl, withoutStyleCodes_styleCode hcolour]
  · rw [String.toList_empty, List.nil_append, withoutStyleCodes_styleCode hcolour]

theorem withoutStyleCodes_painted {p : Piece} (h : EscapeFree p.text) (rest : List Char) :
    withoutStyleCodes (p.painted.toList ++ rest) = p.text.toList ++ withoutStyleCodes rest := by
  unfold Piece.painted
  split
  · exact withoutStyleCodes_append h rest
  · next s _ =>
    rw [String.toList_append, String.toList_append, List.append_assoc, List.append_assoc, withoutStyleCodes_start,
      withoutStyleCodes_append h, withoutStyleCodes_styleCode rfl]

theorem unstyled_painted {ps : List Piece} (h : ∀ p ∈ ps, EscapeFree p.text) : unstyled (painted ps) = plain ps := by
  rw [unstyled, ← String.toList_inj, String.toList_ofList]
  induction ps with
  | nil => exact withoutStyleCodes_nil
  | cons p ps ih =>
    rw [List.forall_mem_cons] at h
    rw [painted_cons, plain_cons, String.toList_append, String.toList_append, withoutStyleCodes_painted h.1, ih h.2]

end Proximity.Text
