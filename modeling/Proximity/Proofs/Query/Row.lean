import Mathlib
import Proximity.Proofs.Capitalization.Payload
import Proximity.Proofs.Text.Words

/-! The lines of outlines. What a line says can be told from its text, as long as all lines are about terms of one
field, no text breaks a line, and payloads are codes of classes.

* `Row`: what a line says. `Row.OnLine`: the rows that keep to their line.
* `Row.control_notMem_text`: control characters come into a row from its term or payload only.
* `Row.text_inj`: the text of a row tells what it says.
* `Row.linesOf_inj`: the text of some lines tells the rows and their depths. -/
namespace Proximity
set_option autoImplicit false
open Text

/-! ## Rows -/

/-- What one line of an outline says. -/
inductive Row where
  | term (t : Term)
  | spanTerm (t : Term)
  | near (slop : UInt32) (inOrder : Bool)
  | anyOf (count : ℕ)
  | choice (minimum : UInt32)
  | must
  | payload (t : Term) (octets : List UInt8)

namespace Row

def label : Row → String
  | term _ => "term"
  | spanTerm _ => "span"
  | near _ _ => "near"
  | anyOf _ => "span-or"
  | choice _ => "or"
  | must => "must"
  | payload _ _ => "payload"

def colour : Row → Colour
  | term _ => .green
  | spanTerm _ => .cyan
  | near _ _ => .blue
  | anyOf _ => .magenta
  | choice _ => .magenta
  | must => .red
  | payload _ _ => .yellow

/-- What stands behind the label. -/
def details : Row → String
  | term t => " " ++ t.line
  | spanTerm t => " " ++ t.line
  | near slop inOrder => " slop=" ++ toString slop.toNat ++ " " ++ (if inOrder then "ordered" else "unordered")
  | anyOf count => " (" ++ toString count ++ " clauses)"
  | choice minimum => " mm=" ++ toString minimum.toNat
  | must => ""
  | payload t octets => " " ++ t.line ++ " = " ++ decodeLossy octets ++ " (" ++ payloadKeyword octets ++ ")"

def text (r : Row) : List Char := r.label.toList ++ r.details.toList

/-- The pieces of a line. -/
def pieces (depth : ℕ) (r : Row) : List Piece :=
  [indent depth, .label r.label r.colour, .ofText (r.details ++ "\n")]

/-- The characters of a line. -/
def line (depth : ℕ) (r : Row) : List Char := List.replicate (2 * depth) ' ' ++ (r.text ++ ['\n'])

theorem toList_plain_pieces (depth : ℕ) (r : Row) (ps : List Piece) :
    (plain (r.pieces depth ++ ps)).toList = r.line depth ++ (plain ps).toList := by
  simp [pieces, line, text, plain_cons, indent, Piece.label, Piece.ofText]

/-! ## The text of a row -/

theorem blank_notMem_label (r : Row) : ' ' ∉ r.label.toList := by cases r <;> simp [label]

theorem head_details (r : Row) : ∀ c ∈ r.details.toList.head?, c = ' ' := by cases r <;> simp [details]

theorem takeWhile_text (r : Row) : r.text.takeWhile (· ≠ ' ') = r.label.toList := by
  cases h : r.details.toList with
  | nil =>
    rw [text, h, List.append_nil, List.takeWhile_eq_self_iff]
    intro c hc
    exact decide_eq_true fun hblank => r.blank_notMem_label (hblank ▸ hc)
  | cons c cs =>
    obtain rfl : c = ' ' := r.head_details c (by rw [h]; rfl)
    rw [text, h, takeWhile_ne_append r.blank_notMem_label]

/-- The label is the first word of a row. -/
theorem label_eq_of_text {r r' : Row} (h : r.text = r'.text) : r.label = r'.label := by
  rw [← String.toList_inj, ← takeWhile_text, ← takeWhile_text, h]

theorem details_eq_of_text {r r' : Row} (h : r.text = r'.text) : r.details.toList = r'.details.toList := by
  have hlabel := label_eq_of_text h
  rw [text, text, hlabel] at h
  exact List.append_cancel_left h

end Row

/-- A term on a field with a value of one line. -/
def Term.OnLine (field : String) (t : Term) : Prop := t.field = field ∧ '\n' ∉ t.value.toList

instance (field : String) (t : Term) : Decidable (t.OnLine field) := instDecidableAnd

theorem Term.OnLine.eq {field : String} {t t' : Term} (h : t.OnLine field) (h' : t'.OnLine field)
    (hline : t.line.toList = t'.line.toList) : t = t' := by
  obtain ⟨f, v⟩ := t
  obtain ⟨f', v'⟩ := t'
  obtain rfl : f = field := h.1
  obtain rfl : f' = f := h'.1
  have hvalue : v.toList = v'.toList := by simpa [line] using hline
  rw [String.toList_inj.mp hvalue]

theorem notMem_toDigits {c : Char} (hc : c.isDigit = false) (n : ℕ) : c ∉ Nat.toDigits 10 n := fun h =>
  Bool.noConfusion ((Nat.isDigit_of_mem_toDigits (by decide) (by decide) h).symm.trans hc)

theorem toDigits_inj {m n : ℕ} (h : Nat.toDigits 10 m = Nat.toDigits 10 n) : m = n := by
  have hvalue := congrArg (Nat.ofDigitChars 10 · 0) h
  simpa only [Nat.ofDigitChars_ten_toDigits] using hvalue

theorem keyword_inj {kind kind' : Capitalization} (h : kind.keyword = kind'.keyword) : kind = kind' := by
  cases kind <;> cases kind' <;> simp_all [Capitalization.keyword]

namespace Row

/-- The terms of a row are on the field and keep to their line, and its payload is the code of a class. -/
def OnLine (field : String) : Row → Prop
  | term t => t.OnLine field
  | spanTerm t => t.OnLine field
  | payload t octets => t.OnLine field ∧ ∃ kind : Capitalization, octets = [kind.code]
  | _ => True

/-- A row whose term and payload, where it has them, have a property each. -/
def Forall (ofTerm : Term → Prop) (ofPayload : List UInt8 → Prop) : Row → Prop
  | term t => ofTerm t
  | spanTerm t => ofTerm t
  | payload t octets => ofTerm t ∧ ofPayload octets
  | _ => True

theorem Forall.imp {P P' : Term → Prop} {Q Q' : List UInt8 → Prop} (hP : ∀ t, P t → P' t) (hQ : ∀ o, Q o → Q' o)
    {r : Row} (h : r.Forall P Q) : r.Forall P' Q' := by
  cases r with
  | term t => exact hP t h
  | spanTerm t => exact hP t h
  | payload t octets => exact ⟨hP t h.1, hQ octets h.2⟩
  | near | anyOf | choice | must => trivial

theorem onLine_iff_forall {field : String} {r : Row} :
    r.OnLine field ↔ r.Forall (·.OnLine field) fun octets => ∃ kind : Capitalization, octets = [kind.code] := by
  cases r <;> exact Iff.rfl

theorem details_payload (t : Term) (kind : Capitalization) :
    (payload t [kind.code]).details.toList =
      (' ' :: (t.line.toList ++ [' ', '=', ' ', kind.codeChar, ' '])) ++ '(' :: (kind.keyword.toList ++ [')']) := by
  simp [details, decodeLossy_code, payloadKeyword_code]

theorem bracket_notMem (kind : Capitalization) : '(' ∉ kind.keyword.toList ++ [')'] := by cases kind <;> decide

theorem text_inj {field : String} {r r' : Row} (hr : r.OnLine field) (hr' : r'.OnLine field) (h : r.text = r'.text) :
    r = r' := by
  have hlabel := label_eq_of_text h
  have hdetails := details_eq_of_text h
  -- rows of different kinds have different labels
  cases r <;> cases r' <;> simp [label] at hlabel
  case term t t' =>
    have hline : t.line.toList = t'.line.toList := by simpa [details] using hdetails
    rw [Term.OnLine.eq hr hr' hline]
  case spanTerm t t' =>
    have hline : t.line.toList = t'.line.toList := by simpa [details] using hdetails
    rw [Term.OnLine.eq hr hr' hline]
  case near slop inOrder slop' inOrder' =>
    have hnumber : Nat.toDigits 10 slop.toNat ++ ' ' :: (if inOrder then "ordered" else "unordered").toList =
        Nat.toDigits 10 slop'.toNat ++ ' ' :: (if inOrder' then "ordered" else "unordered").toList := by
      simpa [details] using hdetails
    obtain ⟨hslop, horder⟩ := append_cons_inj (notMem_toDigits rfl _) (notMem_toDigits rfl _) hnumber
    rw [UInt32.toNat_inj.mp (toDigits_inj hslop)]
    cases inOrder <;> cases inOrder' <;> simp at horder ⊢
  case anyOf count count' =>
    have hnumber : Nat.toDigits 10 count ++ " clauses)".toList = Nat.toDigits 10 count' ++ " clauses)".toList := by
      simpa [details] using hdetails
    rw [toDigits_inj (List.append_cancel_right hnumber)]
  case choice minimum minimum' =>
    have hnumber : Nat.toDigits 10 minimum.toNat = Nat.toDigits 10 minimum'.toNat := by simpa [details] using hdetails
    rw [UInt32.toNat_inj.mp (toDigits_inj hnumber)]
  case must => rfl
  case payload t octets t' octets' =>
    obtain ⟨ht, kind, rfl⟩ := hr
    obtain ⟨ht', kind', rfl⟩ := hr'
    -- the value may itself look like the end of the line, the keyword behind the last bracket cannot
    rw [details_payload, details_payload] at hdetails
    obtain ⟨hfront, hkeyword⟩ := append_cons_inj_last (bracket_notMem kind) (bracket_notMem kind') hdetails
    obtain rfl := keyword_inj (String.toList_inj.mp (List.append_cancel_right hkeyword))
    have hline : t.line.toList = t'.line.toList := by simpa using hfront
    rw [ht.eq ht' hline]

/-! ## Lines -/

theorem not_isDigit_of_control {c : Char} (hc : c < ' ') : c.isDigit = false := by
  have hzero : c < '0' := hc.trans (by decide)
  exact Bool.and_eq_false_imp.mpr fun h => absurd (of_decide_eq_true h) (not_le.mpr hzero)

/-- A control character is in the text of a row only from its term or its payload. -/
theorem control_notMem_text {c : Char} (hc : c < ' ') {r : Row}
    (hr : r.Forall (c ∉ ·.line.toList) fun octets => c ∉ (decodeLossy octets).toList) : c ∉ r.text := by
  have hword : ∀ {s : String}, s.toList.all (' ' ≤ ·) = true → c ∉ s.toList := by
    intro s hs hmem
    exact absurd (of_decide_eq_true (List.all_eq_true.mp hs c hmem)) (not_le.mpr hc)
  have happend : ∀ {s t : String}, c ∉ s.toList → c ∉ t.toList → c ∉ (s ++ t).toList := by
    intro s t hs ht
    rw [String.toList_append]
    exact List.not_mem_append hs ht
  have hnumber : ∀ n : ℕ, c ∉ (toString n).toList := by
    intro n
    simpa using notMem_toDigits (not_isDigit_of_control hc) n
  refine List.not_mem_append (hword (by cases r <;> simp [label])) ?_
  cases r with
  | term t => exact happend (hword rfl) hr
  | spanTerm t => exact happend (hword rfl) hr
  | near slop inOrder =>
    exact happend (happend (happend (hword rfl) (hnumber _)) (hword rfl)) (hword (by cases inOrder <;> rfl))
  | anyOf count => exact happend (happend (hword rfl) (hnumber _)) (hword rfl)
  | choice minimum => exact happend (hword rfl) (hnumber _)
  | must => exact hword rfl
  | payload t octets =>
    have hkeyword : c ∉ (payloadKeyword octets).toList := by
      unfold payloadKeyword
      split
      · next kind _ => exact hword (by cases kind <;> rfl)
      · exact hword rfl
    have hfront : c ∉ (" " ++ t.line ++ " = " ++ decodeLossy octets).toList :=
      happend (happend (happend (hword rfl) hr.1) (hword rfl)) hr.2
    exact happend (happend (happend hfront (hword rfl)) hkeyword) (hword rfl)

theorem newline_notMem_text {field : String} (hfield : '\n' ∉ field.toList) {r : Row} (hr : r.OnLine field) :
    '\n' ∉ r.text := by
  refine control_notMem_text (by decide) ((onLine_iff_forall.mp hr).imp ?_ ?_)
  · rintro t ⟨rfl, hvalue⟩
    simp [Term.line, hfield, hvalue]
  · rintro _ ⟨kind, rfl⟩
    cases kind <;> decide

theorem text_ne_blank (r : Row) : ∀ c ∈ r.text.head?, c ≠ ' ' := by cases r <;> simp [text, label]

theorem line_append_inj {field : String} (hfield : '\n' ∉ field.toList) {r r' : Row} (hr : r.OnLine field)
    (hr' : r'.OnLine field) {depth depth' : ℕ} {cs cs' : List Char} (h : r.line depth ++ cs = r'.line depth' ++ cs') :
    depth = depth' ∧ r = r' ∧ cs = cs' := by
  have hnewline : ∀ {r : Row} (depth : ℕ), r.OnLine field → '\n' ∉ List.replicate (2 * depth) ' ' ++ r.text := by
    intro r depth hr hmem
    rcases List.mem_append.mp hmem with hblank | htext
    · exact absurd (List.eq_of_mem_replicate hblank) (by decide)
    · exact newline_notMem_text hfield hr htext
  have hlines : List.replicate (2 * depth) ' ' ++ r.text ++ '\n' :: cs =
      List.replicate (2 * depth') ' ' ++ r'.text ++ '\n' :: cs' := by
    simpa [line] using h
  obtain ⟨hline, hrest⟩ := append_cons_inj (hnewline depth hr) (hnewline depth' hr') hlines
  obtain ⟨hdepth, htext⟩ := replicate_append_inj r.text_ne_blank r'.text_ne_blank hline
  exact ⟨by omega, text_inj hr hr' htext, hrest⟩

/-- The text of some lines. -/
def linesOf (rows : List (ℕ × Row)) : List Char := rows.flatMap fun p => p.2.line p.1

theorem linesOf_cons (depth : ℕ) (r : Row) (rows : List (ℕ × Row)) :
    linesOf ((depth, r) :: rows) = r.line depth ++ linesOf rows := rfl

theorem linesOf_cons_ne_nil (p : ℕ × Row) (rows : List (ℕ × Row)) : linesOf (p :: rows) ≠ [] := by
  simp [linesOf, line]

theorem linesOf_inj {field : String} (hfield : '\n' ∉ field.toList) {rows rows' : List (ℕ × Row)}
    (hrows : ∀ p ∈ rows, p.2.OnLine field) (hrows' : ∀ p ∈ rows', p.2.OnLine field)
    (h : linesOf rows = linesOf rows') : rows = rows' := by
  induction rows generalizing rows' with
  | nil =>
    cases rows' with
    | nil => rfl
    | cons p rows' => exact absurd h.symm (linesOf_cons_ne_nil p rows')
  | cons p rows ih =>
    cases rows' with
    | nil => exact absurd h (linesOf_cons_ne_nil p rows)
    | cons p' rows' =>
      rw [List.forall_mem_cons] at hrows hrows'
      obtain ⟨hdepth, hrow, hrest⟩ := line_append_inj hfield hrows.1 hrows'.1 h
      rw [Prod.ext hdepth hrow, ih hrows.2 hrows'.2 hrest]

/-- The pieces of some lines. -/
def piecesOf (rows : List (ℕ × Row)) : List Piece := rows.flatMap fun p => p.2.pieces p.1

theorem piecesOf_cons (depth : ℕ) (r : Row) (rows : List (ℕ × Row)) :
    piecesOf ((depth, r) :: rows) = r.pieces depth ++ piecesOf rows := rfl

theorem piecesOf_append (rows rows' : List (ℕ × Row)) : piecesOf (rows ++ rows') = piecesOf rows ++ piecesOf rows' :=
  List.flatMap_append

theorem toList_plain_piecesOf (rows : List (ℕ × Row)) : (plain (piecesOf rows)).toList = linesOf rows := by
  induction rows with
  | nil => rfl
  | cons p rows ih => rw [piecesOf_cons, toList_plain_pieces, ih, linesOf_cons]

end Row

end Proximity
