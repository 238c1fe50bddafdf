import Proximity.Analysis.Simple
import Proximity.Proofs.Request.Refusal
import Proximity.Proofs.Text.Lowercase
import Proximity.Proofs.Text.Words

/-! What an expression shows of its analyzer, and what it becomes with simple ones. An analyzer is asked about parts of
the expression only, so analyzers that agree on these compile it alike.

* `compileProximity_congr`, `compileCapitalization_congr`: analyzers that agree on the parts of an expression.
* `compileProximity_failingOn`, `fragment_of_failingOn`: a word on which an analyzer fails matters only where it occurs.
* `compileProximity_keyword_iff`: with a term for every text, an expression needs an operator and a distance.
* `isWord_of_mem_smallWords`, `smallWords_append`: the words of a text in small letters. -/
namespace Proximity
set_option autoImplicit false

/-! ## What an analyzer is asked -/

section
variable {field raw : String} {a b : Analyzer}

theorem classify_congr {mode : Mode} {side : List Char} (hside : Text.Bare side)
    (h : a field (String.ofList (handedText mode side)) = b field (String.ofList (handedText mode side))) :
    Operand.classify field (String.ofList side) a mode.recognizesPhrases =
      Operand.classify field (String.ofList side) b mode.recognizesPhrases := by
  simp only [Operand.classify, analyzedText_eq mode hside, h]

variable (h : ∀ part : List Char, part <:+: raw.toList → a field (String.ofList part) = b field (String.ofList part))
include h

theorem parse_congr (mode : Mode) :
    Expression.parse field raw a mode.recognizesPhrases = Expression.parse field raw b mode.recognizesPhrases := by
  have hraw := Text.trim_isInfix raw.toList
  rcases greedy_or_none (Text.trim raw.toList) with ⟨l, op, r, cut⟩ | hnone
  · have hl := classify_congr (Text.bare_trim l)
      (h _ ((handedText_isInfix mode _).trans (cut.sides_isInfix.1.trans hraw)))
    have hr := classify_congr (Text.bare_trim r)
      (h _ ((handedText_isInfix mode _).trans (cut.sides_isInfix.2.trans hraw)))
    simp only [Expression.parse, ofExpression_of_greedy cut, bind, Except.bind, hl, hr]
  · simp only [Expression.parse, ofExpression_of_none hnone, bind, Except.bind]

/-- Analyzers that agree on the parts of a proximity expression compile it alike. -/
theorem compileProximity_congr (mode : Mode) (percent : UInt32) :
    compileProximity field raw a mode percent = compileProximity field raw b mode percent := by
  rw [compileProximity, parse_congr h mode]
  rfl

/-- Analyzers that agree on the parts of a capitalization expression compile it alike. -/
theorem compileCapitalization_congr : compileCapitalization field raw a = compileCapitalization field raw b := by
  have hraw := Text.trim_isInfix raw.toList
  have hargument : ∀ {kind word body}, Applied (Text.trim raw.toList) kind word body →
      a field (String.ofList (Text.trim body)) = b field (String.ofList (Text.trim body)) :=
    fun happlied => h _ (happlied.argument_infix.trans hraw)
  obtain ⟨o, ho⟩ := exists_decided field a raw
  rw [compile_of_decided ho]
  refine (compile_of_decided ?_).symm
  cases ho with
  | form hform => exact .form hform
  | keyword happlied hs => exact .keyword happlied hs
  | analysis happlied hs ha => exact .analysis happlied hs (hargument happlied ▸ ha)
  | several happlied hs ha hts => exact .several happlied hs (hargument happlied ▸ ha) hts
  | empty happlied hs ha => exact .empty happlied hs (hargument happlied ▸ ha)
  | term happlied hs ha => exact .term happlied hs (hargument happlied ▸ ha)

end

namespace Analysis

/-! ## Failures -/

theorem occursIn_iff (needle cs : List Char) : occursIn needle cs = true ↔ needle <:+: cs := by
  induction cs with
  | nil => rw [occursIn, List.isEmpty_iff, List.infix_nil]
  | cons c cs ih => rw [occursIn, Bool.or_eq_true, ih, List.isPrefixOf_iff_prefix, List.infix_cons_iff]

section
variable {word reason : String} {a : Analyzer}

theorem failingOn_of_occurs (field : String) {text : String} (h : word.toList <:+: text.toList) :
    failingOn word reason a field text = .error ⟨field, text, reason⟩ := if_pos ((occursIn_iff _ _).mpr h)

theorem failingOn_of_absent (field : String) {text : String} (h : ¬ word.toList <:+: text.toList) :
    failingOn word reason a field text = a field text := if_neg (mt (occursIn_iff _ _).mp h)

theorem namesText_failingOn (h : Refusal.NamesText a) : Refusal.NamesText (failingOn word reason a) := by
  intro field text error herror
  by_cases hoccurs : word.toList <:+: text.toList
  · rw [failingOn_of_occurs field hoccurs] at herror
    obtain rfl := Except.error.inj herror
    rfl
  · rw [failingOn_of_absent field hoccurs] at herror
    exact h field text error herror

/-- An expression without the word compiles as it does with the analyzer alone. If the text that is handed over of the
left side has the word, the analysis of this text is what fails. -/
theorem compileProximity_failingOn (field raw : String) (mode : Mode) (percent : UInt32) :
    (¬ word.toList <:+: raw.toList →
      compileProximity field raw (failingOn word reason a) mode percent = compileProximity field raw a mode percent) ∧
    ∀ l op r, GreedyDecomposition (Text.trim raw.toList) l op r →
      word.toList <:+: handedText mode (Text.trim l) →
        compileProximity field raw (failingOn word reason a) mode percent =
          .error (.analysis ⟨field, String.ofList (handedText mode (Text.trim l)), reason⟩) := by
  refine ⟨fun habsent => compileProximity_congr (fun part hpart => failingOn_of_absent field ?_) mode percent, ?_⟩
  · rw [String.toList_ofList]
    exact fun hoccurs => habsent (hoccurs.trans hpart)
  · intro l op r cut hoccurs
    refine compileProximity_failure percent (.left cut (.analysis (failingOn_of_occurs field ?_)))
    rwa [String.toList_ofList]

theorem namesText_of_total (h : ∀ field text, ∃ ts, a field text = .ok ts) : Refusal.NamesText a := by
  intro field text error herror
  obtain ⟨ts, hts⟩ := h field text
  rw [hts] at herror
  cases herror

/-- With an analyzer that fails on nothing but a word, every refusal of an expression names a part of it. -/
theorem fragment_of_failingOn (ha : ∀ field text, ∃ ts, a field text = .ok ts) {field raw : String} {mode : Mode}
    {percent : UInt32} {e : Refusal}
    (h : compileProximity field raw (failingOn word reason a) mode percent = .error e ∨
      compileCapitalization field raw (failingOn word reason a) = .error e) :
    ∃ s, e.fragment? = some s ∧ s.toList <:+: raw.toList := by
  have hnames := @namesText_failingOn word reason a (namesText_of_total ha)
  rcases h with h | h
  · exact (compileProximity_blames h).fragment hnames
  · exact (compileCapitalization_blames h).fragment hnames

end

/-! ## One term for every text -/

theorem sideTerms_keyword (field : String) (mode : Mode) (side : List Char) :
    SideTerms field keyword mode side [field ++ "|" ++ String.ofList (handedText mode side)] :=
  ⟨List.cons_ne_nil _ _, rfl⟩

/-- Where every text is a term, an expression needs an operator and a distance that fits. -/
theorem compileProximity_keyword_iff (field raw : String) (mode : Mode) (percent : UInt32) :
    (∃ n, compileProximity field raw keyword mode percent = .ok n) ↔
      ∃ l op r, GreedyDecomposition (Text.trim raw.toList) l op r ∧ distanceOf op < 2 ^ 32 := by
  constructor
  · rintro ⟨n, hn⟩
    obtain ⟨l, op, r, ts, us, hchecked⟩ := checked_of_ok hn
    exact ⟨l, op, r, hchecked.cut, hchecked.distance⟩
  · rintro ⟨l, op, r, cut, hdistance⟩
    exact compileProximity_succeeds percent
      ⟨cut, sideTerms_keyword field mode _, sideTerms_keyword field mode _, hdistance⟩

/-- The characters of a text are its terms, and the text is put together from them. -/
theorem join_characters (field text : String) :
    ∃ ts, characters field text = .ok ts ∧ (∀ t ∈ ts, t.length = 1) ∧ String.join ts = text := by
  refine ⟨_, rfl, ?_, ?_⟩
  · intro t ht
    obtain ⟨c, -, rfl⟩ := List.mem_map.mp ht
    exact String.length_ofList
  · rw [← String.toList_inj, String.toList_join, List.flatMap_map]
    simp

/-! ## Words in small letters -/

/-- The terms that `lowercaseWords` makes of a text. -/
def smallWords (text : String) : List String :=
  ((Text.words text.toList).map fun w => Text.lowercase (withoutQuotes w)).filter (fun w => !w.isEmpty)
    |>.map String.ofList

theorem lowercaseWords_eq (field text : String) : lowercaseWords field text = .ok (smallWords text) := rfl

theorem mem_of_mem_withoutQuotes {cs : List Char} {c : Char} (h : c ∈ withoutQuotes cs) : c ∈ cs := by
  rw [withoutQuotes, List.mem_reverse] at h
  have hback := (List.dropWhile_sublist _).subset h
  exact (List.dropWhile_sublist _).subset (List.mem_reverse.mp hback)

/-- The terms are words, and already in small letters. -/
theorem isWord_of_mem_smallWords {text t : String} (h : t ∈ smallWords text) :
    Text.IsWord t.toList ∧ Text.lowercase t.toList = t.toList := by
  obtain ⟨cs, hcs, rfl⟩ := List.mem_map.mp h
  obtain ⟨hmem, hne⟩ := List.mem_filter.mp hcs
  obtain ⟨w, hw, rfl⟩ := List.mem_map.mp hmem
  rw [String.toList_ofList]
  refine ⟨⟨by simpa using hne, fun c hc => ?_⟩, Text.lowercase_lowercase _⟩
  by_contra hblank
  have hplain := Text.mem_of_isBlank_of_mem_lowercaseAfter (Bool.eq_true_of_not_eq_false hblank) hc
  exact hblank ((Text.isWord_of_mem_words hw).2 c (mem_of_mem_withoutQuotes hplain))

theorem smallWords_append (a b : String) {c : Char} (hc : Text.isBlank c = true) :
    smallWords (a ++ String.singleton c ++ b) = smallWords a ++ smallWords b := by
  have htext : (a ++ String.singleton c ++ b).toList = a.toList ++ c :: b.toList := by simp
  simp only [smallWords, htext, Text.words_append_cons _ _ hc, List.map_append, List.filter_append]

end Analysis

end Proximity
