import Stepwise.Proofs.Guard.RoundTrip
import Stepwise.Proofs.Template.RoundTrip
import Stepwise.Proofs.Template.Staging

/-!
# Guards in braces and what holes are filled with

The text of a hole can be read as a template or as a guard. For a chain of paths both should say the same: the
guard holds if the hole is filled with something that counts as true. They do, as long as the marks between
the paths have the blanks around them that parted guards have: a template cuts its chains at every `||`, a
guard only where blanks stand on both sides.
-/

set_option autoImplicit false

namespace Stepwise.Guard

open Stepwise.Text
open Stepwise.Template (Padded Expression Alternative)

/-- A path of a run as it stands in a chain, with blanks around it. -/
structure Choice where
  before : List Char
  named : Path
  after : List Char
  blankBefore : ∀ c ∈ before, isBlank c = true
  blankAfter : ∀ c ∈ after, isBlank c = true
  isWord : ∀ word ∈ named.segments, IsWord word
  ofRun : named.root ≠ .item

namespace Choice

/-- The value of a choice counts as true. -/
def isTruthy (ctx : Context) (choice : Choice) : Bool := Value.isTruthy? (ctx.lookup choice.named)

variable (choice : Choice)

/-- The choice as it stands in the chain. -/
def text : List Char := choice.before ++ choice.named.text.toList ++ choice.after

/-- The choice as a factor of a guard: the value of its path, unnegated. -/
def factor : Factor := ⟨0, .value choice.named choice.isWord⟩

/-- The factor is spelled as the path is. -/
theorem factor_text : choice.factor.text = choice.named.text.toList := by
  simp [factor, Factor.text, Test.text]

/-- Without the blanks around it a choice is its factor. -/
theorem trim_text : trim choice.text = choice.factor.text := by
  rw [factor_text, text, trim_pad choice.blankBefore choice.blankAfter]
  exact Template.trim_path fun word member => (choice.isWord word member).isPlainWord

/-- A choice holds as a guard if its value counts as true. -/
theorem textHolds_text (ctx : Context) :
    textHolds ctx.scope (String.ofList choice.text) = choice.isTruthy ctx := by
  have same : trim choice.text = trim choice.factor.text := by
    rw [trim_text, choice.factor.isTight.trim_eq]
  rw [textHolds_congr ctx.scope same, textHolds, String.toList_ofList, choice.factor.parse_text]
  rfl

/-- A choice is more than blanks. -/
theorem substantial : IsSubstantial choice.text := by
  obtain ⟨rest, whole⟩ := Template.exists_path_text choice.named
  have inPath : IsSubstantial choice.named.text.toList := ⟨'.', by simp [whole], by decide⟩
  exact (inPath.append_left choice.before).append_right choice.after

/-- A character that is neither in the path nor blank does not occur in the choice. -/
theorem not_mem_text {c : Char} (absent : c ∉ choice.factor.text) (notBlank : isBlank c = false) :
    c ∉ choice.text := by
  rw [factor_text] at absent
  intro member
  simp only [text, List.mem_append] at member
  rcases member with (before | inside) | after
  · simpa [notBlank] using choice.blankBefore c before
  · exact absent inside
  · simpa [notBlank] using choice.blankAfter c after

/-- No connective occurs in a choice. -/
theorem undoubled_text : Undoubled '&' choice.text ∧ Undoubled '|' choice.text := by
  obtain ⟨noAmpersand, noBar⟩ := choice.factor.not_mem_text
  exact ⟨undoubled_of_not_mem (choice.not_mem_text noAmpersand (by decide)),
    undoubled_of_not_mem (choice.not_mem_text noBar (by decide))⟩

end Choice

/-- Choices with `||` between them, and a blank on either side of each. -/
def choicesText (choices : List Choice) : List Char := join orMark (choices.map Choice.text)

/-- The choices in the braces of a hole. -/
def holeOf (choices : List Choice) : String :=
  String.ofList (Template.Segment.hole (choicesText choices)).text

/-! ## As a guard -/

/-- In braces, choices hold as a guard if the value of one counts as true. -/
theorem allows_holeOf (ctx : Context) {choices : List Choice} (nonempty : choices ≠ []) :
    ctx.allows (holeOf choices) = choices.any (Choice.isTruthy ctx) := by
  rcases single_or_several nonempty with ⟨choice, rfl⟩ | ⟨first, middle, last, rfl⟩
  · have read : parse (Template.Segment.hole (choicesText [choice])).text = .ok choice.factor.guard := by
      rw [parse_eq, unwrap_trim_hole, ← choice.factor.parse_text, parse_of_tight choice.factor.isTight,
        ← choice.trim_text]
      rfl
    rw [Context.allows, holeOf, textHolds, String.toList_ofList, read]
    simp [Choice.isTruthy, Choice.factor, Factor.guard, Test.guard, holds, Context.scope]
  · have texts : (first :: (middle ++ [last])).map Choice.text =
        first.text :: (middle.map Choice.text ++ [last.text]) := by simp
    have noAnd : ∀ operand ∈ (first :: (middle ++ [last])).map Choice.text, Undoubled '&' operand :=
      List.forall_mem_map.mpr fun choice _ => choice.undoubled_text.1
    have noOr : ∀ operand ∈ (first :: (middle ++ [last])).map Choice.text, Undoubled '|' operand :=
      List.forall_mem_map.mpr fun choice _ => choice.undoubled_text.2
    have unwrapped := unwrap_trim_hole (choicesText (first :: (middle ++ [last])))
    rw [choicesText] at unwrapped
    rw [texts] at noAnd noOr unwrapped
    rw [Context.allows, holeOf, choicesText, texts,
      textHolds_of_or_chain first.substantial last.substantial ctx.scope noAnd noOr unwrapped, ← texts,
      List.any_map]
    have each : (fun text => textHolds ctx.scope (String.ofList text)) ∘ Choice.text =
        Choice.isTruthy ctx := funext fun choice => choice.textHolds_text ctx
    rw [each]

/-! ## As a template -/

namespace Choice

/-- A choice as an alternative of a hole, with more blanks around it if there are marks. -/
def padded (choice : Choice) (markBefore markAfter : Bool) : Padded where
  before := (if markBefore then [' '] else []) ++ choice.before
  spelling := .path choice.named fun word member => (choice.isWord word member).isPlainWord
  after := choice.after ++ (if markAfter then [' '] else [])
  blankBefore := by
    have blank : isBlank ' ' = true := by decide
    cases markBefore <;> simpa [blank] using choice.blankBefore
  blankAfter := by
    have blank : isBlank ' ' = true := by decide
    cases markAfter <;> simpa [blank, or_imp, forall_and] using choice.blankAfter

end Choice

/-- The choices as alternatives: the blanks of the marks between them belong to the choices. -/
def alternatives (markBefore : Bool) : List Choice → List Padded
  | [] => []
  | [choice] => [choice.padded markBefore false]
  | choice :: next :: rest => choice.padded markBefore true :: alternatives true (next :: rest)

/-- As many choices, as many alternatives: one at least. -/
theorem alternatives_ne_nil (markBefore : Bool) {choices : List Choice} (nonempty : choices ≠ []) :
    alternatives markBefore choices ≠ [] := by
  match choices with
  | [_] => simp [alternatives]
  | _ :: _ :: _ => simp [alternatives]

/-- The choices are the source of a hole with these alternatives. -/
theorem source_alternatives (markBefore : Bool) {choices : List Choice} (nonempty : choices ≠ []) :
    Template.source (alternatives markBefore choices) =
      (if markBefore then [' '] else []) ++ choicesText choices := by
  induction choices generalizing markBefore with
  | nil => exact absurd rfl nonempty
  | cons choice rest ih =>
    cases rest with
    | nil =>
      simp [alternatives, Template.source_singleton, Padded.text, Choice.padded, Template.Spelling.text,
        choicesText, join, Choice.text]
    | cons next rest =>
      have later := ih true (by simp)
      have parted : choicesText (choice :: next :: rest) =
          choice.text ++ orMark ++ choicesText (next :: rest) := rfl
      rw [alternatives, Template.source_cons _ (alternatives_ne_nil true (by simp)), later, parted]
      simp [Padded.text, Choice.padded, Template.Spelling.text, Choice.text, Template.bars, orMark]

/-- The alternatives mean the paths of the choices, in their order. -/
theorem map_alternatives (markBefore : Bool) (choices : List Choice) :
    (alternatives markBefore choices).map (fun padded => padded.spelling.meaning) =
      choices.map fun choice => .path choice.named := by
  fun_induction alternatives with
  | case1 => rfl
  | case2 => rfl
  | case3 markBefore choice next rest ih =>
    rw [List.map_cons, ih]
    rfl

/-- A template that is a hole with choices has that one segment, and its source is read as their paths. -/
theorem parse_holeOf {choices : List Choice} (nonempty : choices ≠ []) :
    Template.parse (holeOf choices).toList = [.hole (choicesText choices)] ∧
      Expression.parse (choicesText choices) = .ok (choices.map fun choice => .path choice.named) := by
  have whole := source_alternatives false nonempty
  have some_alternative := alternatives_ne_nil false nonempty
  simp only [Bool.false_eq_true, if_false, List.nil_append] at whole
  have closes := Template.source_closesItself (alternatives false choices)
  have substantial := Template.source_substantial some_alternative
  have read := Template.parse_source some_alternative
  rw [whole] at closes substantial read
  refine ⟨?_, by rw [read, map_alternatives]⟩
  have noOpening : ¬ Template.opening <:+: [] := by simp [Template.opening]
  have found := Template.scan_hole noOpening closes substantial []
  have nothing : Template.scan [] [] = [] := by
    rw [Template.scan_literal noOpening]
    rfl
  rw [List.nil_append, List.append_nil, nothing] at found
  rw [holeOf, String.toList_ofList]
  exact found

section

variable (ctx : Context) {choices : List Choice}
  (noHole : ∀ choice ∈ choices, (ctx.lookup choice.named).any Template.isBareHole = false)

include noHole

/-- The value that a chain gives counts as true if that of one of its paths does. -/
theorem isTruthy_firstUsable :
    (Template.firstUsable ctx.scope (choices.map fun choice => .path choice.named)).isTruthy =
      choices.any (Choice.isTruthy ctx) := by
  induction choices with
  | nil => rfl
  | cons choice rest ih =>
    have later := ih fun other member => noHole other (List.mem_cons_of_mem choice member)
    have lookup_eq : ctx.scope.lookup choice.named = ctx.lookup choice.named := rfl
    rw [List.map_cons, Template.firstUsable, List.any_cons, lookup_eq, Choice.isTruthy]
    cases found : ctx.lookup choice.named with
    | none => simpa [Value.isTruthy?] using later
    | some value =>
      have noBraces : Template.isBareHole value = false := by simpa [found] using noHole choice (by simp)
      by_cases truthy : value.isTruthy = true
      · simp [Value.isTruthy?, truthy, noBraces]
      · simpa [Value.isTruthy?, truthy] using later

/-- In braces, choices are filled with something that counts as true if the value of one does. -/
theorem isTruthy_resolveText (nonempty : choices ≠ []) :
    (Template.resolveText ctx.scope (holeOf choices)).isTruthy = choices.any (Choice.isTruthy ctx) := by
  obtain ⟨single, read⟩ := parse_holeOf nonempty
  have served : (choices.map fun choice => Alternative.path choice.named).any
      (Alternative.waits ctx.scope) = false := by
    rw [List.any_map, List.any_eq_false]
    intro choice member
    simp [Alternative.waits, Context.scope, choice.ofRun]
  rw [Template.resolveText_of_hole single, Template.fill, read]
  simp only [Expression.evaluate, served, Bool.false_eq_true, if_false]
  rcases single_or_several nonempty with ⟨choice, rfl⟩ | ⟨first, middle, last, rfl⟩
  · have lookup_eq : ctx.scope.lookup choice.named = ctx.lookup choice.named := rfl
    simp only [List.map_singleton, lookup_eq, List.any_cons, List.any_nil, Bool.or_false, Choice.isTruthy]
    cases ctx.lookup choice.named <;> rfl
  · rw [← isTruthy_firstUsable ctx noHole]
    cases middle <;> rfl

/-- A guard that is a hole with a chain of paths holds exactly if the hole is filled with something that
counts as true. -/
theorem allows_eq_isTruthy (nonempty : choices ≠ []) :
    ctx.allows (holeOf choices) = (Template.resolveText ctx.scope (holeOf choices)).isTruthy := by
  rw [allows_holeOf ctx nonempty, isTruthy_resolveText ctx noHole nonempty]

end

/-- A run with two variables that count as true, one of them with a name that begins with `length-`, and an
empty one. -/
def trialContext : Context :=
  { Context.start [] [] ⟨0, none, fun _ => .null, fun _ => .error "", (0, 0), [], []⟩ with
    vars := [("a", .flag true), ("length-x", .flag true), ("none", .text "")] }

/-- The empty variable, and another one behind two blanks. -/
def trialChoices : List Choice :=
  [⟨[], ⟨.vars, ["none"], by simp⟩, [], isBlank_of_mem_nil, isBlank_of_mem_nil, by decide +kernel,
      by simp⟩,
    ⟨[' '], ⟨.vars, ["a"], by simp⟩, [], isBlank_of_mem_space, isBlank_of_mem_nil, by decide +kernel,
      by simp⟩]

/-- The choice of the two variables holds, and is filled with a value that counts as true. -/
theorem allows_eq_isTruthy_trial :
    trialChoices ≠ [] ∧
      (∀ choice ∈ trialChoices, (trialContext.lookup choice.named).any Template.isBareHole = false) ∧
      holeOf trialChoices = "$\x7bvars.none ||  vars.a\x7d" ∧
      trialContext.allows (holeOf trialChoices) = true ∧
      (Template.resolveText trialContext.scope (holeOf trialChoices)).isTruthy = true := by
  have nonempty : trialChoices ≠ [] := by simp [trialChoices]
  have noHole : ∀ choice ∈ trialChoices,
      (trialContext.lookup choice.named).any Template.isBareHole = false := by decide +kernel
  have holds : trialContext.allows (holeOf trialChoices) = true := by decide +kernel
  refine ⟨nonempty, noHole, by decide +kernel, holds, ?_⟩
  rw [← allows_eq_isTruthy trialContext noHole nonempty]
  exact holds

/-- Two guards that do not hold although the holes are filled with a value that counts as true: one without
blanks around its mark, and one with a path on which the search for a length stops. -/
theorem allows_false_of_isTruthy :
    (∀ name ∈ ["a", "none", "length-x"],
        (trialContext.lookup ⟨.vars, [name], by simp⟩).any Template.isBareHole = false) ∧
      (trialContext.allows "$\x7bvars.a||vars.none\x7d" = false ∧
        (Template.resolveText trialContext.scope "$\x7bvars.a||vars.none\x7d").isTruthy = true) ∧
      trialContext.allows "$\x7bvars.length-x\x7d" = false ∧
        (Template.resolveText trialContext.scope "$\x7bvars.length-x\x7d").isTruthy = true := by
  decide +kernel

end Stepwise.Guard
