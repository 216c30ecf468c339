import Mathlib.Data.List.Chain
import Stepwise.Guard.Evaluation
import Stepwise.Proofs.Text.Cutting

/-!
# Composition of guards

A guard is a chain of operands with `&&` or `||` between them, and an operand may be written bare or in the
braces of a hole. Such a chain should mean the conjunction or the disjunction of what its operands mean by
themselves. It does, unless the first operand begins with `${` and the last one ends with a brace: the
braces are taken off the text as a whole before it is cut, so then these two marks are taken for one pair
of braces around the chain, and the operands at its ends are read without them.
-/

set_option autoImplicit false

namespace Stepwise.Guard

open Stepwise.Text
open Stepwise.Template (opening)

/-! ## Reading a text whose braces are off -/

/-- Reads what is left of a guard without the braces around it. -/
def parseBare (body : List Char) : Except GuardError Guard :=
  match body with
  | [] => .error .empty
  | c :: rest =>
    if occursIn andMark (c :: rest) then
      .ok (.all ((split andMark (c :: rest)).map fun operand => orUnknown operand (parse operand)))
    else if occursIn orMark (c :: rest) then
      .ok (.any ((split orMark (c :: rest)).map fun operand => orUnknown operand (parse operand)))
    else if c = '!' then (parse rest).map negated
    else parseTest (c :: rest)

/-- A guard is trimmed, then freed of the braces around it, and then read. -/
theorem parse_eq (text : List Char) : parse text = parseBare (unwrap (trim text)) := by
  rw [parse]
  split
  · rename_i inner
    rw [inner, parseBare]
  · rename_i c rest inner
    rw [inner, parseBare]
    simp

/-- The braces of a hole come off, and the blanks inside them. -/
theorem unwrap_trim_hole (text : List Char) : unwrap (trim (Template.Segment.hole text).text) = trim text := by
  have front : IsSubstantial opening := ⟨'$', by decide, by decide⟩
  have back : IsSubstantial ['}'] := ⟨'}', by decide, by decide⟩
  have trimmed : trim (Template.Segment.hole text).text = opening ++ (text ++ ['}']) := by
    rw [Template.Segment.text, List.append_assoc, trim, trimStart_append front, ← List.append_assoc,
      trimEnd_append back, List.append_assoc]
    rfl
  rw [trimmed, unwrap, after?_append, Option.bind_some, before?_append]

/-- A text with `&&` in it is cut there. -/
theorem parseBare_of_andMark {body : List Char} (ands : occursIn andMark body = true) :
    parseBare body =
      .ok (.all ((split andMark body).map fun operand => orUnknown operand (parse operand))) := by
  cases body with
  | nil => cases ands
  | cons c rest => rw [parseBare, if_pos ands]

/-- A text with `||` and without `&&` is cut there. -/
theorem parseBare_of_orMark {body : List Char} (ands : occursIn andMark body = false)
    (ors : occursIn orMark body = true) :
    parseBare body =
      .ok (.any ((split orMark body).map fun operand => orUnknown operand (parse operand))) := by
  cases body with
  | nil => cases ors
  | cons c rest => rw [parseBare, ands, if_neg Bool.false_ne_true, if_pos ors]

/-- Blanks around a guard make no difference. -/
theorem textHolds_congr (scope : Scope) {text other : List Char} (same : trim text = trim other) :
    textHolds scope (String.ofList text) = textHolds scope (String.ofList other) := by
  simp only [textHolds, String.toList_ofList, parse_eq, same]

/-- An operand that cannot be read counts as one that does not hold. -/
theorem holds_orUnknown (scope : Scope) (operand : List Char) :
    holds scope (orUnknown operand (parse operand)) = textHolds scope (String.ofList operand) := by
  unfold orUnknown textHolds
  rw [String.toList_ofList]
  cases parse operand <;> rfl

/-- A conjunction holds when each of its parts does. -/
theorem allHold_eq_all (scope : Scope) (parts : List Guard) :
    allHold scope parts = parts.all (holds scope) := by
  induction parts with
  | nil => rfl
  | cons part rest ih => rw [allHold, ih, List.all_cons]

/-- A disjunction holds when one of its parts does. -/
theorem anyHolds_eq_any (scope : Scope) (parts : List Guard) :
    anyHolds scope parts = parts.any (holds scope) := by
  induction parts with
  | nil => rfl
  | cons part rest ih => rw [anyHolds, ih, List.any_cons]

/-- A text that is cut at `&&` holds if all the pieces hold. -/
theorem textHolds_of_andMark (scope : Scope) {text body : List Char} (unwrapped : unwrap (trim text) = body)
    (ands : occursIn andMark body = true) :
    textHolds scope (String.ofList text) =
      (split andMark body).all fun operand => textHolds scope (String.ofList operand) := by
  have parsed : parse text =
      .ok (.all ((split andMark body).map fun operand => orUnknown operand (parse operand))) := by
    rw [parse_eq, unwrapped, parseBare_of_andMark ands]
  simp only [textHolds, String.toList_ofList, parsed, holds, allHold_eq_all, List.all_map]
  congr
  funext operand
  simpa [textHolds] using holds_orUnknown scope operand

/-- A text that is cut at `||` holds if some piece holds. -/
theorem textHolds_of_orMark (scope : Scope) {text body : List Char} (unwrapped : unwrap (trim text) = body)
    (ands : occursIn andMark body = false) (ors : occursIn orMark body = true) :
    textHolds scope (String.ofList text) =
      (split orMark body).any fun operand => textHolds scope (String.ofList operand) := by
  have parsed : parse text =
      .ok (.any ((split orMark body).map fun operand => orUnknown operand (parse operand))) := by
    rw [parse_eq, unwrapped, parseBare_of_orMark ands ors]
  simp only [textHolds, String.toList_ofList, parsed, holds, anyHolds_eq_any, List.any_map]
  congr
  funext operand
  simpa [textHolds] using holds_orUnknown scope operand

/-! ## Doubled characters -/

/-- No two neighbours in a text are both the character `c`. -/
def Undoubled (c : Char) (text : List Char) : Prop := text.IsChain fun a b => ¬ (a = c ∧ b = c)

/-- A character is undoubled in a text just when it nowhere occurs twice in a row. -/
theorem undoubled_iff {c : Char} {text : List Char} : Undoubled c text ↔ ¬ [c, c] <:+: text := by
  rw [Undoubled, List.isChain_iff_forall_rel_of_append_cons_cons]
  constructor
  · rintro apart ⟨front, rest, whole⟩
    exact apart (show text = front ++ c :: c :: rest by simp [← whole]) ⟨rfl, rfl⟩
  · rintro absent a b front rest whole ⟨rfl, rfl⟩
    exact absent ⟨front, rest, by simp [whole]⟩

/-- A character that is undoubled in a text is so in every part of it. -/
theorem Undoubled.part_of {c : Char} {text part : List Char} (undoubled : Undoubled c text)
    (occurs : part <:+: text) : Undoubled c part := by
  rw [undoubled_iff] at undoubled ⊢
  exact fun doubled => undoubled (doubled.trans occurs)

/-- Two texts without a doubled character make none if one of them does not meet the other in it. -/
theorem Undoubled.append {c : Char} {front rest : List Char} (frontUndoubled : Undoubled c front)
    (restUndoubled : Undoubled c rest) (apart : front.getLast? ≠ some c ∨ rest.head? ≠ some c) :
    Undoubled c (front ++ rest) := by
  refine List.isChain_append.mpr ⟨frontUndoubled, restUndoubled, ?_⟩
  rintro a ends b begins ⟨rfl, rfl⟩
  exact apart.elim (· ends) (· begins)

/-- The mark between operands that is spelled with a doubled character. -/
def mark (c : Char) : List Char := [' ', c, c, ' ']

/-- A text without the doubled character meets no mark before the one that stands behind it. -/
theorem Undoubled.apart {c : Char} {text : List Char} (undoubled : Undoubled c text)
    (notBlank : c ≠ ' ') : ¬ mark c <:+: text ++ (mark c).dropLast := by
  intro occurs
  have inside : ∀ front : List Char, mark c <:+: front ++ [c] → mark c <:+: front := by
    intro front occurs
    rcases List.infix_concat_iff.mp occurs with atEnd | inside
    · have last := atEnd.getLast (by simp [mark])
      simp [mark, notBlank.symm] at last
    · exact inside
  -- the mark ends with a blank, so it ends before the two characters at the end
  have shorter : mark c <:+: text ++ [' '] := by
    apply inside
    apply inside
    simpa [mark] using occurs
  have padded : Undoubled c (text ++ [' ']) :=
    undoubled.append (List.isChain_singleton _) (Or.inr (by simpa using notBlank.symm))
  exact undoubled_iff.mp padded (List.IsInfix.trans ⟨[' '], [' '], rfl⟩ shorter)

/-- Operands that are joined with a mark are found again by cutting at it. -/
theorem split_mark_join {c : Char} (notBlank : c ≠ ' ') {operands : List (List Char)} {last : List Char}
    (undoubled : ∀ operand ∈ operands ++ [last], Undoubled c operand) :
    split (mark c) (join (mark c) (operands ++ [last])) = operands ++ [last] := by
  refine split_join (by simp [mark]) (fun operand member => ?_) fun occurs => ?_
  · exact (undoubled operand (List.mem_append_left _ member)).apart notBlank
  · exact undoubled_iff.mp (undoubled last (by simp)) (List.IsInfix.trans ⟨[' '], [' '], rfl⟩ occurs)

/-- A mark doubles no character but its own. -/
theorem undoubled_join {c d : Char} (notBlank : c ≠ ' ') (different : d ≠ c)
    {operands : List (List Char)} (undoubled : ∀ operand ∈ operands, Undoubled c operand) :
    Undoubled c (join (mark d) operands) := by
  induction operands with
  | nil => exact List.isChain_nil
  | cons operand rest ih =>
    have first : Undoubled c operand := undoubled operand (by simp)
    have later := ih fun other member => undoubled other (by simp [member])
    by_cases none : rest = []
    · simpa [none, join] using first
    · have markUndoubled : Undoubled c (mark d) := by
        simp [Undoubled, mark, different, notBlank.symm]
      rw [join_cons _ _ none, List.append_assoc]
      refine first.append (markUndoubled.append later (Or.inl ?_)) (Or.inr ?_)
      · simpa [mark] using notBlank.symm
      · simpa [mark] using notBlank.symm

/-! ## Braces around a chain -/

/-- Two texts look like the two ends of a hole. -/
def Encloses (first last : List Char) : Prop := opening <+: trimStart first ∧ ['}'] <:+ trimEnd last

/-- The braces of a chain stay on if its ends are not those of a hole. -/
theorem unwrap_chain_of_not_encloses {c : Char} {first last : List Char}
    (firstSubstantial : IsSubstantial first) (lastSubstantial : IsSubstantial last)
    (middle : List (List Char)) (apart : ¬ Encloses first last) :
    unwrap (trim (join (mark c) (first :: (middle ++ [last])))) =
      trim (join (mark c) (first :: (middle ++ [last]))) := by
  unfold unwrap
  split
  · rename_i inside found
    exfalso
    obtain ⟨body, opened, closed⟩ := Option.bind_eq_some_iff.mp found
    have whole := after?_eq_some opened
    rw [before?_eq_some closed, trim_join firstSubstantial lastSubstantial, join_ends] at whole
    obtain ⟨x, begin, first_eq⟩ := List.exists_cons_of_ne_nil firstSubstantial.trimStart_ne_nil
    obtain ⟨front, y, last_eq⟩ := (List.eq_nil_or_concat _).resolve_left lastSubstantial.trimEnd_ne_nil
    rw [first_eq, last_eq] at whole
    refine apart ⟨?_, ?_⟩
    · -- the blank of the first mark is no part of the opening
      rw [first_eq]
      cases begin with
      | nil => simp [opening, mark] at whole
      | cons z begin =>
        simp only [opening, List.cons_append, List.cons.injEq] at whole
        obtain ⟨rfl, rfl, -⟩ := whole
        exact List.prefix_append opening begin
    · -- the last character of the text is the last one of its last piece
      have ends : (x :: begin) ++ (mark c ++ middle.flatMap (· ++ mark c)) ++ front ++ [y] =
          opening ++ inside ++ ['}'] := by
        simpa using whole
      have same := (List.append_inj' ends rfl).2
      rw [last_eq, List.concat_eq_append, ← same]
      exact List.suffix_append front [y]
  · rfl

/-- The braces of a chain come off its ends if these are those of a hole. -/
theorem unwrap_chain_of_encloses {c : Char} {first last opened closed : List Char}
    (firstSubstantial : IsSubstantial first) (lastSubstantial : IsSubstantial last)
    (middle : List (List Char)) (opens : trimStart first = opening ++ opened)
    (closes : trimEnd last = closed ++ ['}']) :
    unwrap (trim (join (mark c) (first :: (middle ++ [last])))) =
      trim (join (mark c) (opened :: (middle ++ [closed]))) := by
  have whole : trim (join (mark c) (first :: (middle ++ [last]))) =
      opening ++ (join (mark c) (opened :: (middle ++ [closed])) ++ ['}']) := by
    rw [trim_join firstSubstantial lastSubstantial, join_ends, join_ends, opens, closes]
    simp
  rw [whole, unwrap, after?_append, Option.bind_some, before?_append]

/-! ## What a chain means -/

section

variable {first last : List Char} {middle : List (List Char)}

/-- Shortening the ends of a chain doubles no character in them. -/
theorem undoubled_of_ends {c : Char} {opened closed : List Char} (opens : opened <:+: first)
    (closes : closed <:+: last)
    (undoubled : ∀ operand ∈ first :: (middle ++ [last]), Undoubled c operand) :
    ∀ operand ∈ (opened :: middle) ++ [closed], Undoubled c operand := by
  intro operand member
  rcases List.mem_append.mp member with front | atEnd
  · rcases List.mem_cons.mp front with rfl | within
    · exact (undoubled first (by simp)).part_of opens
    · exact undoubled operand (by simp [within])
  · rw [List.mem_singleton.mp atEnd]
    exact (undoubled last (by simp)).part_of closes

variable {text : List Char} (firstSubstantial : IsSubstantial first) (lastSubstantial : IsSubstantial last)

include firstSubstantial lastSubstantial

/-- A text that is read as a chain with `&&` holds if all the operands hold. -/
theorem textHolds_of_and_chain (scope : Scope)
    (undoubled : ∀ operand ∈ first :: (middle ++ [last]), Undoubled '&' operand)
    (unwrapped : unwrap (trim text) = trim (join andMark (first :: (middle ++ [last])))) :
    textHolds scope (String.ofList text) =
      (first :: (middle ++ [last])).all fun operand => textHolds scope (String.ofList operand) := by
  rw [trim_join firstSubstantial lastSubstantial] at unwrapped
  have ands := occursIn_join andMark (trimStart first) (trimEnd last) middle
  have pieces : split andMark (join andMark ((trimStart first :: middle) ++ [trimEnd last])) = _ :=
    split_mark_join (by decide) (undoubled_of_ends (trimStart_within _) (trimEnd_within _) undoubled)
  rw [textHolds_of_andMark scope unwrapped ands, ← List.cons_append, pieces]
  simp only [List.cons_append, List.all_cons, List.all_append, List.all_nil,
    textHolds_congr scope (trim_trimStart first), textHolds_congr scope (trim_trimEnd last)]

/-- A text that is read as a chain with `||` holds if some operand holds. -/
theorem textHolds_of_or_chain (scope : Scope)
    (noAnd : ∀ operand ∈ first :: (middle ++ [last]), Undoubled '&' operand)
    (noOr : ∀ operand ∈ first :: (middle ++ [last]), Undoubled '|' operand)
    (unwrapped : unwrap (trim text) = trim (join orMark (first :: (middle ++ [last])))) :
    textHolds scope (String.ofList text) =
      (first :: (middle ++ [last])).any fun operand => textHolds scope (String.ofList operand) := by
  rw [trim_join firstSubstantial lastSubstantial] at unwrapped
  have ands : occursIn andMark (join orMark (trimStart first :: (middle ++ [trimEnd last]))) = false := by
    have undoubled : Undoubled '&' (join orMark (trimStart first :: (middle ++ [trimEnd last]))) :=
      undoubled_join (by decide) (by decide)
        (undoubled_of_ends (trimStart_within _) (trimEnd_within _) noAnd)
    rw [Bool.eq_false_iff, ne_eq, occursIn_iff]
    exact fun occurs => undoubled_iff.mp undoubled (List.IsInfix.trans ⟨[' '], [' '], rfl⟩ occurs)
  have ors := occursIn_join orMark (trimStart first) (trimEnd last) middle
  have pieces : split orMark (join orMark ((trimStart first :: middle) ++ [trimEnd last])) = _ :=
    split_mark_join (by decide) (undoubled_of_ends (trimStart_within _) (trimEnd_within _) noOr)
  rw [textHolds_of_orMark scope unwrapped ands ors, ← List.cons_append, pieces]
  simp only [List.cons_append, List.any_cons, List.any_append, List.any_nil,
    textHolds_congr scope (trim_trimStart first), textHolds_congr scope (trim_trimEnd last)]

end

/-! ## Operands as they are written -/

/-- An operand: more than blanks, without a connective in it, and written in the braces of a hole or
bare. -/
structure Operand where
  text : List Char
  wrapped : Bool
  substantial : IsSubstantial text
  noAnd : ¬ ['&', '&'] <:+: text
  noOr : ¬ ['|', '|'] <:+: text

namespace Operand

/-- An operand as it stands in a chain. -/
def written (operand : Operand) : List Char :=
  if operand.wrapped then (Template.Segment.hole operand.text).text else operand.text

/-- What an operand means by itself. -/
def holds (scope : Scope) (operand : Operand) : Bool := textHolds scope (String.ofList operand.written)

/-- An operand is more than blanks also as it is written. -/
theorem written_substantial (operand : Operand) : IsSubstantial operand.written := by
  unfold written
  split
  · exact (operand.substantial.append_left opening).append_right ['}']
  · exact operand.substantial

/-- The braces around an operand double no character. -/
theorem undoubled_written {c : Char} (notDollar : c ≠ '$') (notOpen : c ≠ '{') (notClose : c ≠ '}')
    (operand : Operand) (undoubled : Undoubled c operand.text) : Undoubled c operand.written := by
  unfold written
  split
  · have front : Undoubled c opening := by simp [Undoubled, opening, notDollar.symm]
    have inner : Undoubled c (opening ++ operand.text) :=
      front.append undoubled (Or.inl (by simpa [opening] using notOpen.symm))
    exact inner.append (List.isChain_singleton _) (Or.inr (by simpa using notClose.symm))
  · exact undoubled

/-- No `&&` occurs in an operand as it is written. -/
theorem written_noAnd (operand : Operand) : Undoubled '&' operand.written :=
  undoubled_written (by decide) (by decide) (by decide) operand (undoubled_iff.mpr operand.noAnd)

/-- No `||` occurs in an operand as it is written. -/
theorem written_noOr (operand : Operand) : Undoubled '|' operand.written :=
  undoubled_written (by decide) (by decide) (by decide) operand (undoubled_iff.mpr operand.noOr)

/-- What holds of every operand as it is written holds of all texts of a chain. -/
theorem forall_written {property : List Char → Prop}
    (each : ∀ operand : Operand, property operand.written) (operands : List Operand) :
    ∀ text ∈ operands.map written, property text := by
  intro text member
  obtain ⟨operand, -, rfl⟩ := List.mem_map.mp member
  exact each operand

/-- The braces around an operand make no difference to what it means by itself, if it has none of its
own. -/
theorem holds_eq_text (scope : Scope) (operand : Operand)
    (bare : unwrap (trim operand.text) = trim operand.text) :
    operand.holds scope = textHolds scope (String.ofList operand.text) := by
  unfold holds written
  split
  · have unwrapped := unwrap_trim_hole operand.text
    simp only [textHolds, String.toList_ofList, parse_eq, unwrapped, bare]
  · rfl

end Operand

/-- What a chain of operands means. Unless its ends look like the ends of one hole, it is the conjunction or
the disjunction of what the operands mean by themselves. Otherwise the marks at its ends are taken off, and
it is that of what is left. An operand by itself means the same in braces and bare. -/
theorem textHolds_join (scope : Scope) (first last : Operand) (middle : List Operand) :
    (¬ Encloses first.written last.written →
      textHolds scope (String.ofList (join andMark ((first :: (middle ++ [last])).map Operand.written))) =
        (first :: (middle ++ [last])).all (Operand.holds scope) ∧
      textHolds scope (String.ofList (join orMark ((first :: (middle ++ [last])).map Operand.written))) =
        (first :: (middle ++ [last])).any (Operand.holds scope)) ∧
    (∀ opened closed, trimStart first.written = opening ++ opened →
      trimEnd last.written = closed ++ ['}'] → IsSubstantial opened → IsSubstantial closed →
      textHolds scope (String.ofList (join andMark ((first :: (middle ++ [last])).map Operand.written))) =
        (opened :: (middle.map Operand.written ++ [closed])).all
          (fun operand => textHolds scope (String.ofList operand)) ∧
      textHolds scope (String.ofList (join orMark ((first :: (middle ++ [last])).map Operand.written))) =
        (opened :: (middle.map Operand.written ++ [closed])).any
          (fun operand => textHolds scope (String.ofList operand))) ∧
    (∀ operand : Operand, unwrap (trim operand.text) = trim operand.text →
      operand.holds scope = textHolds scope (String.ofList operand.text)) := by
  have texts : (first :: (middle ++ [last])).map Operand.written =
      first.written :: (middle.map Operand.written ++ [last.written]) := by simp
  have noAnd := texts ▸ Operand.forall_written Operand.written_noAnd (first :: (middle ++ [last]))
  have noOr := texts ▸ Operand.forall_written Operand.written_noOr (first :: (middle ++ [last]))
  have firstSubstantial := first.written_substantial
  have lastSubstantial := last.written_substantial
  refine ⟨fun apart => ?_, fun opened closed opens closes openedSubstantial closedSubstantial => ?_,
    fun operand bare => operand.holds_eq_text scope bare⟩
  · have stays {c : Char} := unwrap_chain_of_not_encloses (c := c) firstSubstantial lastSubstantial
      (middle.map Operand.written) apart
    have meaning : Operand.holds scope =
        (fun text => textHolds scope (String.ofList text)) ∘ Operand.written := rfl
    rw [meaning, ← List.all_map, ← List.any_map, texts]
    exact ⟨textHolds_of_and_chain firstSubstantial lastSubstantial scope noAnd stays,
      textHolds_of_or_chain firstSubstantial lastSubstantial scope noAnd noOr stays⟩
  · have opens' : opened <:+: first.written :=
      List.IsInfix.trans ⟨opening, [], by simp [opens]⟩ (trimStart_within first.written)
    have closes' : closed <:+: last.written :=
      List.IsInfix.trans ⟨[], ['}'], by simp [closes]⟩ (trimEnd_within last.written)
    have shortNoAnd := undoubled_of_ends opens' closes' noAnd
    have shortNoOr := undoubled_of_ends opens' closes' noOr
    have comesOff {c : Char} := unwrap_chain_of_encloses (c := c) firstSubstantial lastSubstantial
      (middle.map Operand.written) opens closes
    rw [texts]
    exact ⟨textHolds_of_and_chain openedSubstantial closedSubstantial scope shortNoAnd comesOff,
      textHolds_of_or_chain openedSubstantial closedSubstantial scope shortNoAnd shortNoOr comesOff⟩

/-- A scope in which two variables are true, and nothing else is known. -/
def trialScope : Scope :=
  { serves := fun _ => true
    lookup := fun path => if path.text ∈ ["vars.a", "vars.b"] then some (.flag true) else none
    current := fun _ => .null }

/-- The two variables as operands, bare or in braces. -/
def Operand.a (wrapped : Bool) : Operand :=
  ⟨"vars.a".toList, wrapped, ⟨'v', by decide, by decide⟩, by decide +kernel, by decide +kernel⟩

/-- The second of the two variables. -/
def Operand.b (wrapped : Bool) : Operand :=
  ⟨"vars.b".toList, wrapped, ⟨'v', by decide, by decide⟩, by decide +kernel, by decide +kernel⟩

/-- Two true variables in braces are not true together: the first is read as `vars.a}` and the second as
`${vars.b`. -/
theorem wrapped_ends_misread :
    (Operand.a true).holds trialScope = true ∧ (Operand.b true).holds trialScope = true ∧
      String.ofList (join andMark ([Operand.a true, Operand.b true].map Operand.written)) =
        "$\x7bvars.a\x7d && $\x7bvars.b\x7d" ∧
      textHolds trialScope "$\x7bvars.a\x7d && $\x7bvars.b\x7d" = false := by
  refine ⟨?_, ?_, ?_, ?_⟩ <;> decide +kernel

/-- Each part of what a chain means applies to chains of the two variables. -/
theorem textHolds_join_trial :
    (¬ Encloses (Operand.a true).written (Operand.b false).written ∧
      textHolds trialScope
          (String.ofList (join andMark ([Operand.a true, Operand.b false].map Operand.written))) =
        [Operand.a true, Operand.b false].all (Operand.holds trialScope)) ∧
    (trimStart (Operand.a true).written = opening ++ "vars.a\x7d".toList ∧
      trimEnd (Operand.b true).written = "$\x7bvars.b".toList ++ ['}'] ∧
      textHolds trialScope
          (String.ofList (join andMark ([Operand.a true, Operand.b true].map Operand.written))) =
        ["vars.a\x7d".toList, "$\x7bvars.b".toList].all
          (fun operand => textHolds trialScope (String.ofList operand))) ∧
    (Operand.a true).holds trialScope = textHolds trialScope (String.ofList (Operand.a true).text) := by
  have apart : ¬ Encloses (Operand.a true).written (Operand.b false).written := by
    rintro ⟨-, closes⟩
    revert closes
    decide
  have opens : trimStart (Operand.a true).written = opening ++ "vars.a\x7d".toList := by decide
  have closes : trimEnd (Operand.b true).written = "$\x7bvars.b".toList ++ ['}'] := by decide
  refine ⟨⟨apart, ?_⟩, ⟨opens, closes, ?_⟩, ?_⟩
  · exact ((textHolds_join trialScope (Operand.a true) (Operand.b false) []).1 apart).1
  · exact ((textHolds_join trialScope (Operand.a true) (Operand.b true) []).2.1 _ _ opens closes
      ⟨'v', by decide, by decide⟩ ⟨'v', by decide, by decide⟩).1
  · exact (textHolds_join trialScope (Operand.a true) (Operand.b true) []).2.2 (Operand.a true) (by decide)

end Stepwise.Guard
