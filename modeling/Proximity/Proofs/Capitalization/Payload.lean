import Proximity.Analysis.Standard
import Proximity.Capitalization.Listing
import Proximity.Proofs.Capitalization.Outcome
import Proximity.Proofs.Text.Styled
import Proximity.Query.Rendering

/-! The class that a token is indexed with and the payload that an expression on the token asks for. The
expression with the keyword of the class compiles to the code of the class, and the outline of the query and
the list of tokens both name the class by that code and by its keyword. -/
namespace Proximity
set_option autoImplicit false
open Text

/-! ## Codes -/

theorem payloadKeyword_code (kind : Capitalization) : payloadKeyword [kind.code] = kind.keyword := by
  cases kind <;> rfl

theorem decodeLossy_code (kind : Capitalization) :
    Text.decodeLossy [kind.code] = String.ofList [kind.codeChar] := by
  cases kind <;> rfl

theorem render_payload (kind : Capitalization) (field t : String) (colours : Bool) :
    (Node.payload ⟨field, t⟩ [kind.code]).render .tree colours =
      paintedIf colours [.label "payload" .yellow] ++
        (" " ++ field ++ ":" ++ t ++ " = " ++ String.ofList [kind.codeChar] ++ " (" ++ kind.keyword ++ ")\n") := by
  have hindent : paintedIf colours [indent 0] = "" := paintedIf_ofText colours _
  rw [Node.render, Node.outline, paintedIf_cons, hindent, String.empty_append, paintedIf_cons, paintedIf_ofText,
    decodeLossy_code, payloadKeyword_code, Term.line]
  simp only [String.append_assoc]

/-! ## Lists of tokens -/

theorem listing_middle (token : String) (before after : List String) (colours : Bool) :
    Capitalization.listing (before ++ token :: after) colours =
      Capitalization.listing before colours ++ paintedIf colours (Capitalization.listingLine token) ++
        Capitalization.listing after colours := by
  rw [Capitalization.listing, List.flatMap_append, List.flatMap_cons, paintedIf_append, paintedIf_append,
    ← String.append_assoc]
  rfl

theorem paintedIf_listingLine {token : String} {kind : Capitalization}
    (h : Capitalization.ofToken? token = some kind) (colours : Bool) :
    paintedIf colours (Capitalization.listingLine token) =
      token ++ "\t" ++ paintedIf colours [⟨kind.keyword, some ⟨.green, false⟩⟩] ++
        (" (" ++ String.ofList [kind.codeChar] ++ ")\n") := by
  simp only [Capitalization.listingLine, h]
  rw [paintedIf_cons, paintedIf_ofText, paintedIf_cons, paintedIf_ofText, ← String.append_assoc]

theorem paintedIf_listingLine_none {token : String} (h : Capitalization.ofToken? token = none) (colours : Bool) :
    paintedIf colours (Capitalization.listingLine token) = token ++ "\t-\n" := by
  simp only [Capitalization.listingLine, h]
  rw [paintedIf_cons, paintedIf_ofText, paintedIf_ofText, String.append_assoc]
  rfl

/-! ## Expressions on a token -/

theorem applied_of_word {kind : Capitalization} {word body : List Char} (hspells : kind.Spells word)
    (hbody : Text.IsWord body) : Applied (Text.trim (word ++ '(' :: body ++ [')'])) kind word body := by
  have hbare : Text.Bare (word ++ '(' :: body ++ [')']) :=
    Text.bare_append ('(' :: body) (Text.bare_word hspells.isWord) (by decide) hspells.isWord.1 (by decide)
  rw [Text.trim_of_bare hbare]
  exact ⟨rfl, hspells.free, hspells, by rwa [Text.trim_of_bare (Text.bare_word hbody)]⟩

theorem compile_word {kind : Capitalization} {word : List Char} (hspells : kind.Spells word) (hs : 'ſ' ∉ word)
    {token : String} (htoken : Text.IsWord token.toList) {field t : String} {analyzer : Analyzer}
    (ha : analyzer field token = .ok [t]) :
    compileCapitalization field (String.ofList word ++ "(" ++ token ++ ")") analyzer =
      .ok (.payload ⟨field, t⟩ [kind.code]) := by
  have htext : (String.ofList word ++ "(" ++ token ++ ")").toList = word ++ '(' :: token.toList ++ [')'] := by
    simp
  have happlied := applied_of_word hspells htoken
  have hargument : analyzer field (String.ofList (Text.trim token.toList)) = .ok [t] := by
    rw [Text.trim_of_bare (Text.bare_word htoken), String.ofList_toList, ha]
  rw [← htext] at happlied
  exact compile_of_decided (.term happlied hs hargument)

/-- A token of a class, written behind the keyword of the class in either case, is looked for with the code of the
class, and the outline and the list both print that code and the keyword. A token without a class is listed with
a dash. -/
theorem payload_agrees (colours : Bool) :
    (∀ (token : String) (kind : Capitalization) (word : List Char) (field t : String) (analyzer : Analyzer),
      Text.IsWord token.toList → Capitalization.ofToken? token = some kind → kind.Spells word → 'ſ' ∉ word →
      analyzer field token = .ok [t] →
      compileCapitalization field (String.ofList word ++ "(" ++ token ++ ")") analyzer =
        .ok (.payload ⟨field, t⟩ [kind.code]) ∧
      (Node.payload ⟨field, t⟩ [kind.code]).render .tree colours =
        paintedIf colours [.label "payload" .yellow] ++
          (" " ++ field ++ ":" ++ t ++ " = " ++ String.ofList [kind.codeChar] ++ " (" ++ kind.keyword ++ ")\n") ∧
      ∀ before after, Capitalization.listing (before ++ token :: after) colours =
        Capitalization.listing before colours ++
          (token ++ "\t" ++ paintedIf colours [⟨kind.keyword, some ⟨.green, false⟩⟩] ++
            (" (" ++ String.ofList [kind.codeChar] ++ ")\n")) ++
          Capitalization.listing after colours) ∧
    ∀ token before after, Capitalization.ofToken? token = none →
      Capitalization.listing (before ++ token :: after) colours =
        Capitalization.listing before colours ++ (token ++ "\t-\n") ++ Capitalization.listing after colours := by
  refine ⟨fun token kind word field t analyzer htoken hkind hspells hs ha => ⟨?_, ?_, ?_⟩, ?_⟩
  · exact compile_word hspells hs htoken ha
  · exact render_payload kind field t colours
  · intro before after
    rw [listing_middle, paintedIf_listingLine hkind]
  · intro token before after hnone
    rw [listing_middle, paintedIf_listingLine_none hnone]

/-- A token with parentheses of its own, and the plain lines that name its class. -/
theorem payload_agrees_parentheses :
    Text.IsWord "F(x))".toList ∧ Capitalization.ofToken? "F(x))" = some .firstCap ∧
    Capitalization.firstCap.Spells "FirstCap".toList ∧
    compileCapitalization "t" "FirstCap(F(x)))" Analysis.whitespace = .ok (.payload ⟨"t", "F(x))"⟩ [70]) ∧
    (Node.payload ⟨"t", "F(x))"⟩ [70]).render .tree false = "payload t:F(x)) = F (firstcap)\n" ∧
    Capitalization.listing ["F(x))", "dog"] false = "F(x))\tfirstcap (F)\ndog\t-\n" := by
  have hword : Text.IsWord "F(x))".toList := by decide
  have hclass : Capitalization.ofToken? "F(x))" = some .firstCap := rfl
  have hspells : Capitalization.firstCap.Spells "FirstCap".toList :=
    (keyword_eq_map_iff _ _).mp rfl
  obtain ⟨hof, hnone⟩ := payload_agrees false
  obtain ⟨hcompile, hrender, hlisting⟩ := hof "F(x))" .firstCap "FirstCap".toList "t" "F(x))" Analysis.whitespace
    hword hclass hspells (by decide) rfl
  have hdog := hnone "dog" [] [] rfl
  exact ⟨hword, hclass, hspells, hcompile, hrender, (hlisting [] ["dog"]).trans (congrArg _ hdog)⟩

end Proximity
