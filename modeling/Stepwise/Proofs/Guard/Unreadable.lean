import Stepwise.Proofs.Guard.Composition
import Stepwise.Proofs.Guard.Measuring

/-!
# Guards on paths that cannot be read

A single test, without a connective, a negation or braces, is about one path: the whole text, or what stands
before the `.length` that is compared with a number. Such a guard should fail closed: if the path starts in no
namespace or is badly formed, it should never hold. That is so where the value of the path is tested. Where its
length is compared, a path that cannot be read counts as a list without items, so the guard holds exactly if
the comparison does for zero.
-/

set_option autoImplicit false

namespace Stepwise.Guard

open Stepwise.Text
open Stepwise.Template (opening)

/-! ## Single tests -/

/-- A text without a connective, a negation or braces around it. -/
structure IsSingle (text : List Char) : Prop where
  noAnd : ¬ andMark <:+: text
  noOr : ¬ orMark <:+: text
  positive : text.head? ≠ some '!'
  bare : ¬ (opening <+: text ∧ ['}'] <:+ text)

/-- A text that is not in braces is unwrapped to itself. -/
theorem unwrap_of_bare {text : List Char} (bare : ¬ (opening <+: text ∧ ['}'] <:+ text)) :
    unwrap text = text := by
  unfold unwrap
  split
  · rename_i inside found
    exfalso
    obtain ⟨body, opened, closed⟩ := Option.bind_eq_some_iff.mp found
    have front := after?_eq_some opened
    have back := before?_eq_some closed
    refine bare ⟨⟨body, front.symm⟩, ⟨opening ++ inside, ?_⟩⟩
    rw [front, back, List.append_assoc]
  · rfl

/-- A condition that is a single test holds when that test is read and holds. -/
theorem textHolds_of_isSingle (scope : Scope) {text : String} (single : IsSingle (trim text.toList)) :
    textHolds scope text = ((parseTest (trim text.toList)).map (holds scope)).toOption.getD false := by
  have ands : occursIn andMark (trim text.toList) = false := by
    rw [Bool.eq_false_iff, ne_eq, occursIn_iff]
    exact single.noAnd
  have ors : occursIn orMark (trim text.toList) = false := by
    rw [Bool.eq_false_iff, ne_eq, occursIn_iff]
    exact single.noOr
  have positive := single.positive
  rw [textHolds, parse_eq, unwrap_of_bare single.bare]
  generalize trim text.toList = body at ands ors positive ⊢
  cases body with
  | nil =>
    have unmeasured : parseLength [] = .ok none := by
      rw [parseLength, splitLength?_eq]
      rfl
    rw [parseTest, unmeasured]
    rfl
  | cons c rest =>
    have notBang : c ≠ '!' := by simpa using positive
    rw [parseBare, ands, ors, if_neg Bool.false_ne_true, if_neg Bool.false_ne_true, if_neg notBang]
    cases parseTest (c :: rest) <;> rfl

/-! ## Where a path ends in `.length` -/

/-- The first `.length` of a text with which a path ends, with what stands before it and after it. -/
structure EndsAt (text before after : List Char) : Prop where
  whole : text = before ++ lengthMark ++ after
  ends : after.head?.any continuesPath = false
  first : ∀ front back, text = front ++ lengthMark ++ back → front.length < before.length →
    back.head?.any continuesPath = true

/-- Two marks of a text are the same or apart: none begins within another. -/
theorem mark_apart {front rest back : List Char} (same : lengthMark ++ rest = front ++ lengthMark ++ back) :
    (front = [] ∧ back = rest) ∨
      ∃ later, front = lengthMark ++ later ∧ rest = later ++ lengthMark ++ back := by
  rw [List.append_assoc] at same
  rcases List.append_eq_append_iff.mp same with ⟨later, front_eq, rest_eq⟩ | ⟨inner, mark_eq, behind⟩
  · exact Or.inr ⟨later, front_eq, by rw [rest_eq, List.append_assoc]⟩
  · cases front with
    | nil =>
      left
      simpa using same.symm
    | cons c front =>
      -- the second mark would begin at a point within the word behind the first point
      cases inner with
      | nil =>
        right
        refine ⟨[], by simpa using mark_eq.symm, by simpa using behind.symm⟩
      | cons d inner =>
        exfalso
        have point : d = '.' := by
          simp only [lengthMark_eq, List.cons_append, List.cons.injEq] at behind
          exact behind.1.symm
        have within : d ∈ lengthWord := by
          simp only [lengthMark_eq, List.cons_append, List.cons.injEq] at mark_eq
          simp [mark_eq.2]
        rw [point] at within
        revert within
        decide

section

variable {text passed behind before after : List Char}
  (found : breakAt lengthMark text = some (passed, behind))

include found

/-- When the first mark ends the path, it is the one place where the text ends at a mark. -/
theorem endsAt_iff_of_first (ends : behind.head?.any continuesPath = false) :
    EndsAt text before after ↔ before = passed ∧ after = behind := by
  have whole := breakAt_eq_some found
  constructor
  · intro endsAt
    obtain ⟨earlier, -⟩ := breakAt_first found endsAt.whole
    have notEarlier : ¬ passed.length < before.length := by
      intro shorter
      have continued := endsAt.first passed behind whole shorter
      rw [ends] at continued
      cases continued
    have same : passed = before := earlier.eq_of_length_le (Nat.le_of_not_lt notEarlier)
    refine ⟨same.symm, ?_⟩
    have both := endsAt.whole.symm.trans whole
    rw [same] at both
    exact List.append_cancel_left both
  · rintro ⟨rfl, rfl⟩
    refine ⟨whole, ends, fun front back occurs shorter => ?_⟩
    obtain ⟨earlier, -⟩ := breakAt_first found occurs
    exact absurd earlier.length_le (Nat.not_le_of_lt shorter)

/-- If a path goes on behind the first mark, the end of a path is looked for behind it. -/
theorem endsAt_iff_of_continued (continued : behind.head?.any continuesPath = true) :
    EndsAt text before after ↔
      ∃ later, before = passed ++ lengthMark ++ later ∧ EndsAt behind later after := by
  have whole := breakAt_eq_some found
  -- every mark is the first one, or stands behind it
  have place : ∀ {front back : List Char}, text = front ++ lengthMark ++ back →
      (front = passed ∧ back = behind) ∨
        ∃ later, front = passed ++ lengthMark ++ later ∧ behind = later ++ lengthMark ++ back := by
    intro front back occurs
    obtain ⟨⟨between, rfl⟩, -⟩ := breakAt_first found occurs
    have rest : lengthMark ++ behind = between ++ lengthMark ++ back := by
      refine (List.append_right_inj passed).mp ?_
      rw [← List.append_assoc, ← whole, occurs]
      simp
    rcases mark_apart rest with ⟨rfl, rfl⟩ | ⟨later, rfl, rfl⟩
    · exact Or.inl ⟨List.append_nil passed, rfl⟩
    · exact Or.inr ⟨later, (List.append_assoc ..).symm, rfl⟩
  constructor
  · intro endsAt
    rcases place endsAt.whole with ⟨rfl, rfl⟩ | ⟨later, rfl, rfl⟩
    · rw [endsAt.ends] at continued
      cases continued
    · refine ⟨later, rfl, rfl, endsAt.ends, fun front back occurs shorter => ?_⟩
      refine endsAt.first (passed ++ lengthMark ++ front) back ?_ ?_
      · rw [whole, occurs]
        simp
      · simpa using shorter
  · rintro ⟨later, rfl, endsAt⟩
    refine ⟨?_, endsAt.ends, fun front back occurs shorter => ?_⟩
    · rw [whole, endsAt.whole]
      simp
    · rcases place occurs with ⟨rfl, rfl⟩ | ⟨inside, rfl, rest⟩
      · exact continued
      · exact endsAt.first inside back rest (by simpa using shorter)

end

/-- The search finds the first `.length` with which a path ends. -/
theorem splitLength?_eq_some_iff {passed text front after : List Char} :
    splitLength? passed text = some (front, after) ↔
      ∃ before, front = passed ++ before ∧ EndsAt text before after := by
  fun_induction splitLength? passed text with
  | case1 passed text missing =>
    constructor
    · intro impossible
      cases impossible
    · rintro ⟨before, -, endsAt⟩
      have occurs : occursIn lengthMark text = true :=
        occursIn_iff.mpr ⟨before, after, endsAt.whole.symm⟩
      simp [occursIn, missing] at occurs
  | case2 passed text before behind found continued ih =>
    simp only [ih, endsAt_iff_of_continued found continued]
    constructor
    · rintro ⟨later, rfl, endsAt⟩
      exact ⟨before ++ lengthMark ++ later, by simp, later, rfl, endsAt⟩
    · rintro ⟨-, rfl, later, rfl, endsAt⟩
      exact ⟨later, by simp, endsAt⟩
  | case3 passed text before behind found stops =>
    rw [Bool.not_eq_true] at stops
    simp only [endsAt_iff_of_first found stops, Option.some.injEq, Prod.mk.injEq]
    constructor
    · rintro ⟨rfl, rfl⟩
      exact ⟨before, rfl, rfl, rfl⟩
    · rintro ⟨-, rfl, rfl, rfl⟩
      exact ⟨rfl, rfl⟩

/-! ## What a test is about -/

/-- The path that a test is about, and the comparison of its length if it is not its value that counts. -/
inductive Tests (text : List Char) : List Char → Option (Comparison × Int) → Prop
  | value (unmeasured : ∀ before after, EndsAt text before after → ¬ IsSubstantial after) :
    Tests text text none
  | length {before after : List Char} {op : Comparison} {bound : Int} (ends : EndsAt text before after)
    (compared : IsComparison after op bound) : Tests text (trim before) (some (op, bound))

section

variable {text : List Char}

/-- A text in which no path ends in `.length` before more than blanks compares no length. -/
theorem parseLength_of_unmeasured
    (unmeasured : ∀ before after, EndsAt text before after → ¬ IsSubstantial after) :
    parseLength text = .ok none := by
  rw [parseLength]
  cases found : splitLength? [] text with
  | none => rfl
  | some parts =>
    obtain ⟨before, -, ends⟩ := splitLength?_eq_some_iff.mp found
    have nothing : trimStart parts.2 = [] := by
      by_contra substantial
      refine unmeasured before parts.2 ends (isSubstantial_of_not_blank fun blank => substantial ?_)
      exact List.dropWhile_eq_nil_iff.mpr blank
    simp only [nothing, List.isEmpty_nil, if_true]

variable {before after : List Char} (ends : EndsAt text before after)

include ends

/-- A comparison of the length of what is no path is read as one of zero. -/
theorem parseLength_of_rejected {op : Comparison} {bound : Int} (compared : IsComparison after op bound)
    {error : TemplateError} (rejected : Path.parse (trim before) = .error error) :
    parseLength text = .ok (some (.unresolvedLength (String.ofList (trim before)) op bound)) := by
  have found := splitLength?_eq_some_iff.mpr ⟨before, (List.nil_append before).symm, ends⟩
  rw [parseLength_of_comparison found compared]
  simp only [rejected]

/-- What stands behind a length, and is more than blanks, has to be a comparison. -/
theorem parseLength_of_not_compared (substantial : IsSubstantial after)
    (uncompared : ∀ op bound, ¬ IsComparison after op bound) : ∃ error, parseLength text = .error error := by
  have found := splitLength?_eq_some_iff.mpr ⟨before, (List.nil_append before).symm, ends⟩
  have begun : (trimStart after).isEmpty = false := by
    rw [Bool.eq_false_iff, ne_eq, List.isEmpty_iff]
    exact substantial.trimStart_ne_nil
  rw [parseLength, found]
  simp only [begun, Bool.false_eq_true, if_false]
  split
  · exact ⟨_, rfl⟩
  · cases spelled : Comparison.ofSymbol? (String.ofList ((trimStart after).takeWhile isSign)) with
    | none => exact ⟨_, rfl⟩
    | some op =>
      cases read : integer? (trim ((trimStart after).dropWhile isSign)) with
      | none => exact ⟨_, rfl⟩
      | some bound => exact absurd (isComparison_iff.mpr ⟨spelled, read⟩) (uncompared op bound)

end

/-! ## Guards that fail closed, and those that do not -/

/-- A single test of a path that is rejected, for its namespace or for a part that is badly formed, does not
hold if it is about the value of the path; if it is about its length, it holds exactly if the comparison does
for zero. A single text that is no test never holds. -/
theorem textHolds_of_rejected (scope : Scope) {text : String} (single : IsSingle (trim text.toList)) :
    (∀ place measure error, Tests (trim text.toList) place measure → Path.parse place = .error error →
      textHolds scope text = measure.any fun test => test.1.holds 0 test.2) ∧
    ((∀ place measure, ¬ Tests (trim text.toList) place measure) → textHolds scope text = false) := by
  rw [textHolds_of_isSingle scope single]
  generalize trim text.toList = whole
  refine ⟨fun place measure error tests rejected => ?_, fun untested => ?_⟩
  · cases tests with
    | value unmeasured =>
      rw [parseTest, parseLength_of_unmeasured unmeasured]
      simp only [rejected]
      cases error <;> rfl
    | length ends compared =>
      rw [parseTest, parseLength_of_rejected ends compared rejected]
      rfl
  · -- a text that is not about its own value has a length in it that is not compared
    have measured : ∃ before after, EndsAt whole before after ∧ IsSubstantial after := by
      by_contra unmeasured
      simp only [not_exists, not_and] at unmeasured
      exact untested whole none (.value unmeasured)
    obtain ⟨before, after, ends, substantial⟩ := measured
    obtain ⟨error, unread⟩ := parseLength_of_not_compared ends substantial fun op bound compared =>
      untested (trim before) (some (op, bound)) (.length ends compared)
    rw [parseTest, unread]
    rfl

/-- A test of a length in a namespace that there is not. -/
def strayLength : String := "nosuch.x.length == 0"

/-- The test of the stray namespace is a single one. -/
theorem isSingle_strayLength : IsSingle (trim strayLength.toList) :=
  ⟨by decide +kernel, by decide +kernel, by decide +kernel, by decide +kernel⟩

/-- It compares the length of `nosuch.x` with zero. -/
theorem tests_strayLength : Tests (trim strayLength.toList) "nosuch.x".toList (some (.equal, 0)) := by
  have found : splitLength? [] (trim strayLength.toList) = some ("nosuch.x".toList, " == 0".toList) := by
    decide +kernel
  obtain ⟨before, same, ends⟩ := splitLength?_eq_some_iff.mp found
  have compared : IsComparison " == 0".toList .equal 0 :=
    isComparison_iff.mpr ⟨by decide +kernel, by decide +kernel⟩
  have place : trim before = "nosuch.x".toList := by
    rw [← List.nil_append before, ← same]
    decide +kernel
  exact place ▸ .length ends compared

/-- A guard on the length of a list in a namespace that there is not holds, and so does one on a path with an
empty part; a guard on the value of the same path does not. -/
theorem strayLength_holds :
    IsSingle (trim strayLength.toList) ∧
      Tests (trim strayLength.toList) "nosuch.x".toList (some (.equal, 0)) ∧
      Path.parse "nosuch.x".toList = .error (.unknownNamespace "nosuch") ∧
      textHolds trialScope strayLength = true ∧
      textHolds trialScope "vars..a.length < 5" = true ∧
      textHolds trialScope "nosuch.x" = false := by
  refine ⟨isSingle_strayLength, tests_strayLength, ?_, ?_, ?_, ?_⟩ <;> decide +kernel

/-- The guard on the length of a list that no path names holds as zero equals zero, and a sign that compares
nothing makes no test. -/
theorem textHolds_of_rejected_trial :
    IsSingle (trim strayLength.toList) ∧
      textHolds trialScope strayLength = Comparison.equal.holds 0 0 ∧
      IsSingle (trim "vars.a.length ~ 2".toList) ∧
      textHolds trialScope "vars.a.length ~ 2" = false := by
  have single : IsSingle (trim "vars.a.length ~ 2".toList) :=
    ⟨by decide +kernel, by decide +kernel, by decide +kernel, by decide +kernel⟩
  refine ⟨isSingle_strayLength, ?_, single, ?_⟩
  · exact (textHolds_of_rejected trialScope isSingle_strayLength).1 _ _ (.unknownNamespace "nosuch")
      tests_strayLength (by decide +kernel)
  · have found : splitLength? [] (trim "vars.a.length ~ 2".toList) =
        some ("vars.a".toList, " ~ 2".toList) := by decide +kernel
    refine (textHolds_of_rejected trialScope single).2 fun place measure tests => ?_
    cases tests with
    | value unmeasured =>
      obtain ⟨before, -, ends⟩ := splitLength?_eq_some_iff.mp found
      exact unmeasured before _ ends ⟨'~', by decide, by decide⟩
    | length ends compared =>
      have same := splitLength?_eq_some_iff.mpr ⟨_, (List.nil_append _).symm, ends⟩
      rw [found] at same
      cases same
      have unsigned : Comparison.ofSymbol?
          (String.ofList ((trimStart " ~ 2".toList).takeWhile isSign)) = none := by decide +kernel
      have signed := (isComparison_iff.mp compared).1
      rw [unsigned] at signed
      cases signed

end Stepwise.Guard
