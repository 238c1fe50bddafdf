import Proximity.Cli.Arguments
import Proximity.Proofs.Text.Words

/-! Options that are written long and once each are read back from a command line, whatever their values are.

* `Accepted`: the options that a subcommand takes.
* `Arguments.step_argument`, `Arguments.foldlM_arguments`: one option, and one after the other.
* `Invocation.parse_line`: a subcommand with options and a value. -/
namespace Proximity
set_option autoImplicit false

/-- The name of a format. -/
def Format.name : Format → String
  | line => "line"
  | tree => "tree"
  | json => "json"

theorem Format.lookup_name (format : Format) : Format.names.lookup format.name = some format := by
  cases format <;> rfl

namespace Cli

/-! ## Written options -/

namespace OptionName

/-- How an option is written. -/
def form : OptionName → OptionForm
  | format => ⟨.format, none, "format", true⟩
  | noColour => ⟨.noColour, none, "no-color", false⟩
  | verbose => ⟨.verbose, some 'v', "verbose", false⟩
  | field => fieldForm
  | mode => ⟨.mode, some 'm', "mode", true⟩
  | minimum => ⟨.minimum, none, "mm", true⟩
  | analyzer => analyzerForm

/-- An option with its value as an argument. -/
def argument (o : OptionName) (value : String) : String :=
  if o.form.hasValue then "--" ++ o.form.long ++ "=" ++ value else "--" ++ o.form.long

theorem form_name (o : OptionName) : o.form.name = o := by
  cases o <;> rfl

theorem long_ne_nil (o : OptionName) : o.form.long.toList ≠ [] := by
  cases o <;> decide

theorem equals_not_mem_long (o : OptionName) : '=' ∉ o.form.long.toList := by
  cases o <;> decide

end OptionName

/-- An option of a subcommand and a value for it, which is empty if the option takes none. -/
structure Accepted (forms : List OptionForm) (o : OptionName × String) : Prop where
  find : (forms.find? fun f => f.long = o.1.form.long) = some o.1.form
  flag : o.1.form.hasValue = false → o.2 = ""

/-! ## Read options -/

theorem lookup_cons_ite (o o' : OptionName) (value : String) (os : List (OptionName × String)) :
    ((o', value) :: os).lookup o = if o = o' then some value else os.lookup o := by
  rw [List.lookup_cons]
  by_cases h : o = o'
  · simp [h]
  · rw [if_neg h, beq_eq_false_iff_ne.mpr h]

namespace Arguments

theorem set_of_new {a : Arguments} {o : OptionName} (hnew : a.get? o = none) (hawaiting : a.awaiting = none)
    (value : String) : a.set o value = some { a with options := (o, value) :: a.options } := by
  simp [set, hnew, ← hawaiting]

/-- The two dashes of a long option. -/
theorem step_long {forms : List OptionForm} {a : Arguments} (hended : a.ended = false) (hawaiting : a.awaiting = none)
    {text : List Char} (htext : text ≠ []) :
    a.step forms (String.ofList ('-' :: '-' :: text)) = a.long forms text := by
  obtain ⟨c, cs, rfl⟩ := List.exists_cons_of_ne_nil htext
  simp [step, hended, hawaiting]

theorem step_argument {forms : List OptionForm} {o : OptionName} {value : String} (ho : Accepted forms (o, value))
    {a : Arguments} (hended : a.ended = false) (hawaiting : a.awaiting = none) (hnew : a.get? o = none) :
    a.step forms (o.argument value) = some { a with options := (o, value) :: a.options } := by
  cases hvalue : o.form.hasValue with
  | true =>
    have harg : o.argument value = String.ofList ('-' :: '-' :: (o.form.long.toList ++ '=' :: value.toList)) := by
      apply String.toList_injective
      simp [OptionName.argument, hvalue]
    have htake := Text.takeWhile_ne_append o.equals_not_mem_long value.toList
    have hdrop := Text.dropWhile_ne_append o.equals_not_mem_long value.toList
    rw [harg, step_long hended hawaiting (by simp)]
    simp only [long, htake, hdrop, String.ofList_toList, ho.find, hvalue, o.form_name, set_of_new hnew hawaiting]
  | false =>
    have harg : o.argument value = String.ofList ('-' :: '-' :: o.form.long.toList) := by
      apply String.toList_injective
      simp [OptionName.argument, hvalue]
    have hname : ∀ c ∈ o.form.long.toList, decide (c ≠ '=') = true :=
      fun c hc => decide_eq_true fun heq => o.equals_not_mem_long (heq ▸ hc)
    have htake : o.form.long.toList.takeWhile (· ≠ '=') = o.form.long.toList := List.takeWhile_eq_self_iff.mpr hname
    have hdrop : o.form.long.toList.dropWhile (· ≠ '=') = [] := List.dropWhile_eq_nil_iff.mpr hname
    obtain rfl : value = "" := ho.flag hvalue
    rw [harg, step_long hended hawaiting o.long_ne_nil]
    simp only [long, htake, hdrop, String.ofList_toList, ho.find, hvalue, o.form_name, set_of_new hnew hawaiting]

/-- Options that are given once each are taken up one after the other. -/
theorem foldlM_arguments {forms : List OptionForm} {os : List (OptionName × String)} (hos : ∀ o ∈ os, Accepted forms o)
    (hnodup : (os.map Prod.fst).Nodup) {a : Arguments} (hended : a.ended = false) (hawaiting : a.awaiting = none)
    (hnew : ∀ o ∈ os, a.get? o.1 = none) :
    (os.map fun o => o.1.argument o.2).foldlM (step forms) a =
      some { a with options := os.reverse ++ a.options } := by
  induction os generalizing a with
  | nil => rfl
  | cons o os ih =>
    obtain ⟨ho, hos⟩ := List.forall_mem_cons.mp hos
    obtain ⟨hfirst, hnew⟩ := List.forall_mem_cons.mp hnew
    rw [List.map_cons, List.nodup_cons] at hnodup
    rw [List.map_cons, List.foldlM_cons, step_argument ho hended hawaiting hfirst, Option.bind_eq_bind,
      Option.bind_some]
    have hrest : ∀ x ∈ os, ({ a with options := o :: a.options } : Arguments).get? x.1 = none := by
      intro x hx
      have hne : x.1 ≠ o.1 := fun h => hnodup.1 (h ▸ List.mem_map_of_mem hx)
      have hold := hnew x hx
      simpa [get?, hne] using hold
    rw [ih hos hnodup.2 (a := { a with options := o :: a.options }) hended hawaiting hrest]
    simp

theorem readAll_arguments {forms : List OptionForm} {os : List (OptionName × String)}
    (hos : ∀ o ∈ os, Accepted forms o) (hnodup : (os.map Prod.fst).Nodup) (value : String) :
    readAll forms ((os.map fun o => o.1.argument o.2) ++ ["--", value]) = some ⟨os.reverse, [value], none, true⟩ := by
  have hoptions := foldlM_arguments hos hnodup (a := start) rfl rfl fun _ _ => rfl
  rw [readAll, List.foldlM_append, hoptions]
  simp [start, step]

theorem get_reverse {os : List (OptionName × String)} (hnodup : (os.map Prod.fst).Nodup) (values : List String)
    (awaiting : Option OptionName) (ended : Bool) (o : OptionName) :
    (Arguments.mk os.reverse values awaiting ended).get? o = os.lookup o := by
  rw [get?]
  induction os with
  | nil => rfl
  | cons x os ih =>
    obtain ⟨k, value⟩ := x
    rw [List.map_cons, List.nodup_cons] at hnodup
    rw [List.reverse_cons, List.lookup_append, ih hnodup.2, lookup_cons_ite, lookup_cons_ite]
    by_cases hk : o = k
    · subst hk
      have hnone : os.lookup o = none := by
        rw [List.lookup_eq_none_iff]
        intro y hy
        exact bne_iff_ne.mpr fun h => hnodup.1 (List.mem_map.mpr ⟨y, hy, h.symm⟩)
      rw [hnone, Option.none_or, if_pos rfl, if_pos rfl]
    · rw [if_neg hk, if_neg hk, List.lookup_nil, Option.or_none]

end Arguments

/-! ## Lines -/

/-- The name of a subcommand. -/
def Subcommand.name : Subcommand → String
  | prox => "prox"
  | cap => "cap"
  | request => "request"
  | classify => "classify"

/-- A subcommand with options and a value. The value stands behind two dashes. -/
def Subcommand.line (s : Subcommand) (os : List (OptionName × String)) (value : String) : List String :=
  s.name :: ((os.map fun o => o.1.argument o.2) ++ ["--", value])

theorem Invocation.parse_line {s : Subcommand} {os : List (OptionName × String)} (hos : ∀ o ∈ os, Accepted s.forms o)
    (hnodup : (os.map Prod.fst).Nodup) {value : String} {command : Command} {format : Format}
    (hcommand : ∀ a : Arguments, a.values = [value] → (∀ o, a.get? o = os.lookup o) → s.command? a = some command)
    (hformat : os.lookup .format = some format.name) :
    Invocation.parse (s.line os value) =
      some ⟨command, format, (os.lookup .noColour).isSome, (os.lookup .verbose).isSome⟩ := by
  have hfront : ∀ rest, Arguments.start.readFront (s.name :: rest) = some (.start, s.name, rest) := by
    intro rest
    cases s <;> rfl
  have hname : Subcommand.names.lookup s.name = some s := by cases s <;> rfl
  have hback := Arguments.readAll_arguments hos hnodup value
  have hget := Arguments.get_reverse hnodup [value] none true
  have hstart : Arguments.start.format? = some none := rfl
  have hnone : ∀ o, Arguments.start.get? o = none := fun _ => rfl
  have hgiven : (Arguments.mk os.reverse [value] none true).format? = some (some format) := by
    simp [Arguments.format?, hget, hformat, Format.lookup_name]
  simp [Invocation.parse, Subcommand.line, hfront, hname, hback, hstart, hnone, hget, hgiven, hcommand _ rfl hget]

end Cli

end Proximity
