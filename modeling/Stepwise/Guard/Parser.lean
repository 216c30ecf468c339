import Stepwise.Guard.Basic
import Stepwise.Template.Segment
import Stepwise.Text.Letter
import Stepwise.Text.Numeral

/-!
# Reading guards

The text of a guard may stand in the braces of a hole. `&&` between blanks parts it first, then `||`
between blanks; there are no parentheses. An operand that cannot be read never holds, so the others
still decide.
-/

set_option autoImplicit false

namespace Stepwise.Guard

/-- The text inside the braces of a hole, trimmed; any other text as it is. -/
def unwrap (text : List Char) : List Char :=
  match (Text.after? Template.opening text).bind (Text.before? ['}']) with
  | some inside => Text.trim inside
  | none => text

/-- Taking off the outer wrapper never makes a condition longer, which is what the parser's
recursion needs. -/
theorem length_unwrap_le (text : List Char) : (unwrap text).length ≤ text.length := by
  unfold unwrap
  split
  · rename_i inside found
    obtain ⟨body, opened, closed⟩ := Option.bind_eq_some_iff.mp found
    have front := Text.after?_eq_some opened
    obtain ⟨reversed, ending, rfl⟩ := Option.map_eq_some_iff.mp closed
    have back : body.reverse = ['}'].reverse ++ reversed := Text.after?_eq_some ending
    have size : body.length = reversed.length + 1 := by
      rw [← List.length_reverse, back]
      simp
    refine Nat.le_trans (Text.length_trim_le _) ?_
    rw [front]
    simp only [List.length_reverse, List.length_append]
    omega
  · exact Nat.le_refl _

/-- The word that a test of a length contains. -/
def lengthMark : List Char := ".length".toList

/-- A character after `.length` that makes it part of a longer path. -/
def continuesPath (c : Char) : Bool := Text.isLetter c || c == '_' || c == '.'

/-- The text before the first `.length` that ends a path, and the text after it. -/
def splitLength? (passed text : List Char) : Option (List Char × List Char) :=
  match _found : Text.breakAt lengthMark text with
  | none => none
  | some (before, after) =>
    if after.head?.any continuesPath then splitLength? (passed ++ before ++ lengthMark) after
    else some (passed ++ before, after)
termination_by text.length
decreasing_by
  rw [Text.breakAt_eq_some _found]
  have : 0 < lengthMark.length := by decide
  simp only [List.length_append]
  omega

/-- A character of a comparison sign. -/
def isSign (c : Char) : Bool := c == '<' || c == '>' || c == '=' || c == '!'

/-- The test of a length, if the text is one. -/
def parseLength (text : List Char) : Except GuardError (Option Guard) :=
  match splitLength? [] text with
  | none => .ok none
  | some (before, after) =>
    let test := Text.trimStart after
    let sign := test.takeWhile isSign
    let invalid : GuardError := .invalidComparison (String.ofList text)
    if test.isEmpty then .ok none
    else if sign.isEmpty then .error invalid
    else
      match Comparison.ofSymbol? (String.ofList sign) with
      | none => .error (.unknownOperator (String.ofList sign))
      | some op =>
        match Text.integer? (Text.trim (test.dropWhile isSign)) with
        | none => .error invalid
        | some bound =>
          let named := Text.trim before
          match Path.parse named with
          | .ok path => .ok (some (.length path op bound))
          | .error _ => .ok (some (.unresolvedLength (String.ofList named) op bound))

/-- A test without connectives. -/
def parseTest (text : List Char) : Except GuardError Guard :=
  match parseLength text with
  | .error error => .error error
  | .ok (some guard) => .ok guard
  | .ok none =>
    match Path.parse text with
    | .ok path => .ok (.truthy path)
    | .error (.unknownNamespace _) => .ok (.unknown (String.ofList text))
    | .error error => .error (.path error)

/-- The connectives, with the blanks they stand between. -/
def andMark : List Char := " && ".toList
/-- The disjunction as it stands between two conditions: only with a blank on either side. -/
def orMark : List Char := " || ".toList

/-- What an operand stands for that cannot be read: a test that never holds. -/
def orUnknown (text : List Char) (parsed : Except GuardError Guard) : Guard :=
  match parsed with
  | .ok guard => guard
  | .error _ => .unknown (String.ofList (Text.trim text))

/-- Reads a guard. -/
def parse (text : List Char) : Except GuardError Guard :=
  match _inner : unwrap (Text.trim text) with
  | [] => .error .empty
  | c :: rest =>
    if _ands : Text.occursIn andMark (c :: rest) then
      .ok (.all ((Text.split andMark (c :: rest)).attach.map fun operand =>
        orUnknown operand.1 (parse operand.1)))
    else if _ors : Text.occursIn orMark (c :: rest) then
      .ok (.any ((Text.split orMark (c :: rest)).attach.map fun operand =>
        orUnknown operand.1 (parse operand.1)))
    else if c = '!' then (parse rest).map negated
    else parseTest (c :: rest)
termination_by text.length
decreasing_by
  all_goals
    have bound : (c :: rest).length ≤ text.length := by
      rw [← _inner]
      exact Nat.le_trans (length_unwrap_le _) (Text.length_trim_le _)
  · have := Text.length_lt_of_mem_split (by decide) _ands operand.2
    omega
  · have := Text.length_lt_of_mem_split (by decide) _ors operand.2
    omega
  · simp only [List.length_cons] at bound
    omega

end Stepwise.Guard
