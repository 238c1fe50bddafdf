import Mathlib
import Proximity.Capitalization.Class

/-! Which tokens belong to a class. The class is found by counting capitals from the first character to the last;
here it is said by where the capitals stand.

* `Tally.ofChars_eq`: what is known when the characters of a token are read.
* `Capitalization.Describes`: what a class says of the characters of a token, and what it says to have none.
* `ofToken_describes`: a token has the one class that describes it. -/
namespace Proximity
set_option autoImplicit false
open Text

namespace Capitalization

/-- What a class says of the characters of a token. A token without a class has no capitals. -/
def Describes : Option Capitalization → List Char → Prop
  | none, cs => ∀ c ∈ cs, isUppercase c = false
  | some allCap, cs => cs ≠ [] ∧ ∀ c ∈ cs, isUppercase c = true
  | some firstCap, cs =>
    2 ≤ cs.length ∧ (∀ c ∈ cs.head?, isUppercase c = true) ∧ ∀ c ∈ cs.tail, isUppercase c = false
  | some cap, cs =>
    (∃ c ∈ cs, isUppercase c = true) ∧ (∃ c ∈ cs, isUppercase c = false) ∧ ∃ c ∈ cs.tail, isUppercase c = true

/-! ## Reading a token -/

namespace Tally

theorem ofChars_concat (cs : List Char) (c : Char) : ofChars (cs ++ [c]) = (ofChars cs).take c cs.length := by
  rw [ofChars, List.zipIdx_append, List.foldl_append, Nat.zero_add]
  rfl

/-- What is known of the characters read so far: the induction is on the last one, which is the first one only if none
stands before it. -/
theorem ofChars_eq (cs : List Char) :
    ofChars cs = ⟨cs.countP isUppercase, cs.any fun c => !isUppercase c, cs.head?.any isUppercase⟩ := by
  induction cs using List.reverseRecOn with
  | nil => rfl
  | append_singleton cs c ih =>
    rw [ofChars_concat, ih, take, List.countP_append, List.any_append]
    by_cases hc : isUppercase c = true
    · cases cs <;> simp [hc]
    · cases cs <;> simp [hc]

end Tally

/-! ## The class of a token -/

theorem ofToken_eq (token : String) :
    ofToken? token =
      if token.toList.countP isUppercase = 0 then none
      else if !(token.toList.any fun c => !isUppercase c) then some allCap
      else if token.toList.head?.any isUppercase && token.toList.countP isUppercase = 1 then some firstCap
      else some cap := by
  rw [ofToken?, Tally.ofChars_eq]
  rfl

theorem ofToken_of_describes {token : String} {kind : Option Capitalization} (h : Describes kind token.toList) :
    ofToken? token = kind := by
  rw [ofToken_eq]
  generalize token.toList = cs at h
  match kind, h with
  | none, h =>
    have hcount : cs.countP isUppercase = 0 := by
      rw [List.countP_eq_zero]
      exact fun c hc hcapital => Bool.noConfusion (hcapital.symm.trans (h c hc))
    exact if_pos hcount
  | some allCap, ⟨hne, hall⟩ =>
    have hcount : cs.countP isUppercase = cs.length := List.countP_eq_length.mpr hall
    have hlen : 0 < cs.length := List.length_pos_iff.mpr hne
    have hother : (cs.any fun c => !isUppercase c) = false := by
      rw [List.any_eq_false]
      exact fun c hc => by simp [hall c hc]
    rw [if_neg (by omega), if_pos (by rw [hother]; rfl)]
  | some firstCap, ⟨htwo, hfirst, hrest⟩ =>
    match cs, htwo, hfirst, hrest with
    | c :: d :: rest, _, hfirst, hrest =>
      have hcapital : isUppercase c = true := hfirst c rfl
      have hnone : (d :: rest).countP isUppercase = 0 := by
        rw [List.countP_eq_zero]
        exact fun x hx h => Bool.noConfusion (h.symm.trans (hrest x hx))
      have hcount : (c :: d :: rest).countP isUppercase = 1 := by rw [List.countP_cons_of_pos hcapital, hnone]
      have hother : ((c :: d :: rest).any fun c => !isUppercase c) = true := by
        rw [List.any_eq_true]
        exact ⟨d, by simp, by simp [hrest d (List.mem_cons_self ..)]⟩
      rw [hcount, hother, List.head?_cons, Option.any_some, hcapital]
      rfl
  | some cap, ⟨hsome, ⟨s, hs, hsmall⟩, hlater⟩ =>
    have hpos : 0 < cs.countP isUppercase := List.countP_pos_iff.mpr hsome
    have hother : (cs.any fun c => !isUppercase c) = true := List.any_eq_true.mpr ⟨s, hs, by simp [hsmall]⟩
    have hnot : ¬ (cs.head?.any isUppercase = true ∧ cs.countP isUppercase = 1) := by
      rintro ⟨hhead, hone⟩
      cases cs with
      | nil => cases hhead
      | cons c rest =>
        have hcapital : isUppercase c = true := hhead
        have htail : 0 < rest.countP isUppercase := List.countP_pos_iff.mpr hlater
        rw [List.countP_cons_of_pos hcapital] at hone
        omega
    rw [if_neg (by omega), hother, if_neg (by decide), if_neg (by simpa using hnot)]

theorem exists_describes (cs : List Char) : ∃ kind, Describes kind cs := by
  cases cs with
  | nil => exact ⟨none, nofun⟩
  | cons c rest =>
    by_cases hlater : ∃ d ∈ rest, isUppercase d = true
    · obtain ⟨d, hd, hcapital⟩ := hlater
      have hmem : d ∈ c :: rest := List.mem_cons_of_mem c hd
      by_cases hsmall : ∃ x ∈ c :: rest, isUppercase x = false
      · exact ⟨some cap, ⟨d, hmem, hcapital⟩, hsmall, d, hd, hcapital⟩
      · refine ⟨some allCap, List.cons_ne_nil c rest, fun x hx => ?_⟩
        exact Bool.eq_true_of_not_eq_false fun h => hsmall ⟨x, hx, h⟩
    · have hrest : ∀ d ∈ rest, isUppercase d = false := fun d hd =>
        Bool.eq_false_of_not_eq_true fun h => hlater ⟨d, hd, h⟩
      cases hc : isUppercase c with
      | false => exact ⟨none, List.forall_mem_cons.mpr ⟨hc, hrest⟩⟩
      | true =>
        cases rest with
        | nil => exact ⟨some allCap, List.cons_ne_nil c [], List.forall_mem_singleton.mpr hc⟩
        | cons d rest => exact ⟨some firstCap, by simp, by simpa using hc, hrest⟩

/-- A token has the class that describes where its capitals stand. Of the three classes and no class, one and no other
describes a token, so `cap` is what is left where the others do not. -/
theorem ofToken_describes (token : String) :
    (∀ kind, ofToken? token = kind ↔ Describes kind token.toList) ∧
      (∃! kind, Describes kind token.toList) ∧
      (ofToken? token = some cap ↔ ¬ Describes none token.toList ∧ ¬ Describes (some allCap) token.toList ∧
        ¬ Describes (some firstCap) token.toList) := by
  obtain ⟨kind, hkind⟩ := exists_describes token.toList
  have hclass : ofToken? token = kind := ofToken_of_describes hkind
  have hiff : ∀ kind', ofToken? token = kind' ↔ Describes kind' token.toList := by
    intro kind'
    refine ⟨fun h => ?_, ofToken_of_describes⟩
    rw [← h, hclass]
    exact hkind
  refine ⟨hiff, ⟨kind, hkind, fun kind' h => ?_⟩, ?_⟩
  · rw [← hclass, ofToken_of_describes h]
  · rw [← hiff, ← hiff, ← hiff, hclass]
    rcases kind with _ | ⟨⟨⟩⟩ <;> decide

end Capitalization

end Proximity
