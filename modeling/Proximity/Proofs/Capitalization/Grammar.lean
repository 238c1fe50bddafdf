import Proximity.Capitalization.Expression
import Proximity.Proofs.Text.Words

/-! The written form of capitalization expressions: a keyword up to case, and a word between the first
parenthesis and the last character.

* `Capitalization.Spells`: the spellings of a keyword. Those with U+017F are not looked up.
* `Applied`: a text that has the written form, with its parts, which the text determines. -/
namespace Proximity
set_option autoImplicit false

/-! ## Letters -/

/-- A character stands for a small letter: it is that letter, its capital, or U+017F for an s. -/
def StandsFor (letter c : Char) : Prop := c = letter ∨ c = letter.toUpper ∨ (letter = 's' ∧ c = 'ſ')

instance (letter c : Char) : Decidable (StandsFor letter c) := inferInstanceAs (Decidable (_ ∨ _ ∨ _))

def IsSmall (c : Char) : Prop := 97 ≤ c.toNat ∧ c.toNat < 123

instance (c : Char) : Decidable (IsSmall c) := inferInstanceAs (Decidable (_ ∧ _))

theorem toUpper_small {c : Char} (h : IsSmall c) :
    ('A' ≤ c.toUpper ∧ c.toUpper ≤ 'Z') ∧ Text.smallAscii c.toUpper = c := by
  have hall : ∀ n < 123, 97 ≤ n → ('A' ≤ (Char.ofNat n).toUpper ∧ (Char.ofNat n).toUpper ≤ 'Z') ∧
      Text.smallAscii (Char.ofNat n).toUpper = Char.ofNat n := by decide
  have hc := hall c.toNat h.2 h.1
  rwa [Char.ofNat_toNat] at hc

theorem toUpper_smallAscii {c : Char} (h : 'A' ≤ c ∧ c ≤ 'Z') : (Text.smallAscii c).toUpper = c := by
  have hall : ∀ n < 91, 65 ≤ n → (Text.smallAscii (Char.ofNat n)).toUpper = Char.ofNat n := by decide
  have hlow : 65 ≤ c.toNat := h.1
  have hhigh : c.toNat ≤ 90 := h.2
  have hc := hall c.toNat (by omega) hlow
  rwa [Char.ofNat_toNat] at hc

theorem smallAscii_eq_iff {letter c : Char} (hsmall : IsSmall letter) :
    Text.smallAscii c = letter ↔ c = letter ∨ c = letter.toUpper := by
  obtain ⟨hcapital, hback⟩ := toUpper_small hsmall
  by_cases hc : 'A' ≤ c ∧ c ≤ 'Z'
  · constructor
    · rintro rfl
      exact .inr (toUpper_smallAscii hc).symm
    · rintro (rfl | rfl)
      · have hhigh : c.toNat ≤ 90 := hc.2
        have hlow := hsmall.1
        omega
      · exact hback
  · rw [Text.smallAscii, if_neg hc]
    constructor
    · exact .inl
    · rintro (rfl | rfl)
      · rfl
      · exact absurd hcapital hc

theorem foldedLetter_eq_iff {letter c : Char} (hsmall : IsSmall letter) :
    letter = foldedLetter c ↔ StandsFor letter c := by
  unfold foldedLetter StandsFor
  by_cases hc : c = 'ſ'
  · have hother : 'ſ' ≠ letter ∧ 'ſ' ≠ letter.toUpper := by
      obtain ⟨hcapital, -⟩ := toUpper_small hsmall
      refine ⟨?_, ?_⟩
      · rintro rfl
        exact absurd hsmall (by decide)
      · intro h
        rw [← h] at hcapital
        exact absurd hcapital (by decide)
    simp [hc, hother]
  · rw [if_neg hc, eq_comm, smallAscii_eq_iff hsmall]
    simp [hc]

/-! ## Keywords -/

theorem isSmall_keyword (kind : Capitalization) : ∀ c ∈ kind.keyword.toList, IsSmall c := by
  have hall : kind.keyword.toList.all (fun c => decide (IsSmall c)) = true := by cases kind <;> rfl
  exact fun c hc => of_decide_eq_true (List.all_eq_true.mp hall c hc)

/-- A spelling of the keyword of a class, in letters of either case. -/
def Capitalization.Spells (kind : Capitalization) (word : List Char) : Prop :=
  List.Forall₂ StandsFor kind.keyword.toList word

theorem eq_map_iff {letters word : List Char} {f : Char → Char} {R : Char → Char → Prop}
    (h : ∀ letter ∈ letters, ∀ c, letter = f c ↔ R letter c) :
    letters = word.map f ↔ List.Forall₂ R letters word := by
  induction letters generalizing word with
  | nil => cases word <;> simp
  | cons letter letters ih =>
    cases word with
    | nil => simp
    | cons c word =>
      have hletters : letters = word.map f ↔ List.Forall₂ R letters word :=
        ih fun x hx => h x (List.mem_cons_of_mem letter hx)
      rw [List.map_cons, List.cons.injEq, List.forall₂_cons, h letter (List.mem_cons_self ..) c, hletters]

theorem keyword_eq_map_iff (kind : Capitalization) (word : List Char) :
    kind.keyword.toList = word.map foldedLetter ↔ kind.Spells word :=
  eq_map_iff fun letter hletter _ => foldedLetter_eq_iff (isSmall_keyword kind letter hletter)

theorem isKeyword_iff (word : List Char) : isKeyword word = true ↔ ∃ kind : Capitalization, kind.Spells word := by
  have hall : ∀ kind : Capitalization, kind ∈ Capitalization.all := fun kind => by cases kind <;> decide
  simp only [isKeyword, List.any_eq_true, decide_eq_true_eq, keyword_eq_map_iff]
  exact ⟨fun ⟨kind, _, h⟩ => ⟨kind, h⟩, fun ⟨kind, h⟩ => ⟨kind, hall kind, h⟩⟩

theorem Capitalization.Spells.unique {kind kind' : Capitalization} {word : List Char} (h : kind.Spells word)
    (h' : kind'.Spells word) : kind = kind' := by
  have hkeyword : kind.keyword.toList = kind'.keyword.toList :=
    ((keyword_eq_map_iff kind word).mpr h).trans ((keyword_eq_map_iff kind' word).mpr h').symm
  revert hkeyword
  cases kind <;> cases kind' <;> decide

/-- A keyword in ASCII letters is looked up without regard to case. -/
theorem ofKeyword_of_spells {kind : Capitalization} {word : List Char} (h : kind.Spells word) (hs : 'ſ' ∉ word) :
    Capitalization.ofKeyword? (String.ofList word) = some kind := by
  have hword : word.map Text.smallAscii = kind.keyword.toList := by
    rw [(keyword_eq_map_iff kind word).mpr h]
    apply List.map_congr_left
    intro c hc
    have hne : c ≠ 'ſ' := fun heq => hs (heq ▸ hc)
    rw [foldedLetter, if_neg hne]
  rw [Capitalization.ofKeyword?, String.toList_ofList, hword]
  cases kind <;> rfl

theorem ofKeyword_of_longS {word : List Char} (hs : 'ſ' ∈ word) :
    Capitalization.ofKeyword? (String.ofList word) = none := by
  have hmem : 'ſ' ∈ word.map Text.smallAscii := List.mem_map.mpr ⟨'ſ', hs, by decide⟩
  rw [Capitalization.ofKeyword?, String.toList_ofList, List.find?_eq_none]
  intro kind _ heq
  have hsmall := isSmall_keyword kind 'ſ' (of_decide_eq_true heq ▸ hmem)
  exact absurd hsmall (by decide)

/-! ## Words and arguments -/

theorem not_isBlank_of_standsFor {letter c : Char} (hsmall : IsSmall letter) (h : StandsFor letter c) :
    Text.isBlank c = false := by
  have hall : ∀ n < 123, 65 ≤ n → Text.inRanges Text.blank n = false := by decide
  rcases h with rfl | rfl | ⟨-, rfl⟩
  · exact hall c.toNat hsmall.2 (by have hlow := hsmall.1; omega)
  · obtain ⟨⟨hlow, hhigh⟩, -⟩ := toUpper_small hsmall
    have hlow : 65 ≤ letter.toUpper.toNat := hlow
    have hhigh : letter.toUpper.toNat ≤ 90 := hhigh
    exact hall letter.toUpper.toNat (by omega) hlow
  · decide

theorem Capitalization.Spells.isSmall {kind : Capitalization} {word : List Char} (h : kind.Spells word) :
    ∀ c ∈ word, IsSmall (foldedLetter c) := by
  intro c hc
  have hmem : foldedLetter c ∈ kind.keyword.toList := by
    rw [(keyword_eq_map_iff kind word).mpr h]
    exact List.mem_map_of_mem hc
  exact isSmall_keyword kind _ hmem

theorem Capitalization.Spells.isWord {kind : Capitalization} {word : List Char} (h : kind.Spells word) :
    Text.IsWord word := by
  refine ⟨?_, fun c hc => ?_⟩
  · rintro rfl
    cases kind <;> cases h
  · have hsmall := h.isSmall c hc
    exact not_isBlank_of_standsFor hsmall ((foldedLetter_eq_iff hsmall).mp rfl)

theorem Capitalization.Spells.free {kind : Capitalization} {word : List Char} (h : kind.Spells word) :
    '(' ∉ word := fun hmem => absurd (h.isSmall '(' hmem) (by decide)

/-- The parts of a capitalization expression: the keyword in front of the first parenthesis, the class that it
spells, and the body between the parentheses, which is a word when it is trimmed. -/
structure Applied (text : List Char) (kind : Capitalization) (word body : List Char) : Prop where
  append : text = word ++ '(' :: body ++ [')']
  free : '(' ∉ word
  spells : kind.Spells word
  argument : Text.IsWord (Text.trim body)

theorem Applied.unique {text : List Char} {kind kind' : Capitalization} {word word' body body' : List Char}
    (h : Applied text kind word body) (h' : Applied text kind' word' body') :
    kind = kind' ∧ word = word' ∧ body = body' := by
  have htext : word ++ '(' :: (body ++ [')']) = word' ++ '(' :: (body' ++ [')']) :=
    (List.append_assoc ..).symm.trans ((h.append.symm.trans h'.append).trans (List.append_assoc ..))
  have hword : word = word' := by
    have htake := congrArg (List.takeWhile (· ≠ '(')) htext
    rwa [Text.takeWhile_ne_append h.free, Text.takeWhile_ne_append h'.free] at htake
  subst hword
  have hrest := List.append_cancel_left htext
  exact ⟨h.spells.unique h'.spells, rfl, List.append_cancel_right (List.cons.inj hrest).2⟩

theorem argument_eq_some_iff {body a : List Char} :
    argument? body = some a ↔ Text.IsWord (Text.trim body) ∧ a = Text.trim body := by
  have hword : Text.IsWord (Text.trim body) ↔
      Text.trim body ≠ [] ∧ (Text.trim body).any Text.isBlank = false := by
    rw [Text.IsWord, List.any_eq_false]
    simp only [Bool.not_eq_true]
  rw [hword]
  unfold argument?
  cases htrim : Text.trim body with
  | nil => simp
  | cons c cs => cases hblank : (c :: cs).any Text.isBlank <;> simp [hblank, eq_comm]

/-- Reading finds the parts of exactly the texts that have the written form. -/
theorem application_eq_some_iff {text word a : List Char} :
    application? text = some (word, a) ↔ ∃ kind body, Applied text kind word body ∧ a = Text.trim body := by
  constructor
  · intro h
    have hparts : text.takeWhile (· ≠ '(') ++ text.dropWhile (· ≠ '(') = text := List.takeWhile_append_dropWhile
    have hfree : '(' ∉ text.takeWhile (· ≠ '(') := fun hmem => by
      simpa using List.mem_takeWhile_imp hmem
    simp only [application?] at h
    split at h
    · next rest hrest =>
      split at h
      · next hcond =>
        rw [Bool.and_eq_true, decide_eq_true_eq] at hcond
        obtain ⟨hkeyword, hlast⟩ := hcond
        obtain ⟨kind, hspells⟩ := (isKeyword_iff _).mp hkeyword
        obtain ⟨b, hb, heq⟩ := Option.map_eq_some_iff.mp h
        obtain ⟨rfl, rfl⟩ := Prod.mk.inj heq
        obtain ⟨hargument, htrim⟩ := argument_eq_some_iff.mp hb
        refine ⟨kind, rest.dropLast, ⟨?_, hfree, hspells, hargument⟩, htrim⟩
        rw [List.append_assoc, List.cons_append, List.dropLast_append_getLast? ')' hlast, ← hrest, hparts]
      · cases h
    · cases h
  · rintro ⟨kind, body, ⟨rfl, hfree, hspells, hargument⟩, rfl⟩
    have hkeyword : isKeyword word = true := (isKeyword_iff word).mpr ⟨kind, hspells⟩
    have htake := Text.takeWhile_ne_append hfree (body ++ [')'])
    have hdrop := Text.dropWhile_ne_append hfree (body ++ [')'])
    have hbody : argument? body = some (Text.trim body) := argument_eq_some_iff.mpr ⟨hargument, rfl⟩
    rw [List.append_assoc, List.cons_append]
    simp only [application?, htake, hdrop, hkeyword, List.getLast?_concat, List.dropLast_concat, hbody,
      decide_true, Bool.and_self, if_true, Option.map_some]

theorem application_eq_none_iff {text : List Char} :
    application? text = none ↔ ∀ kind word body, ¬ Applied text kind word body := by
  rw [Option.eq_none_iff_forall_ne_some]
  constructor
  · intro h kind word body happlied
    exact h (word, Text.trim body) (application_eq_some_iff.mpr ⟨kind, body, happlied, rfl⟩)
  · rintro h ⟨word, a⟩ hsome
    obtain ⟨kind, body, happlied, -⟩ := application_eq_some_iff.mp hsome
    exact h kind word body happlied

end Proximity
