import Stepwise.Proofs.Template.Staging

/-!
# Templates that match

A path that leads nowhere brings the empty text to a template, so it can be told from one that leads to the empty
text neither alone, nor inside a text, nor in a chain. Two templates that are resolved in two scopes match if they
are the same but for alternatives that bring the same, each in its scope, and for these alternatives alone; what
stays as it is written has to be written alike. Templates that match are resolved to the same.
-/

set_option autoImplicit false

namespace Stepwise

/-- What a path brings to a template. -/
def Scope.brought (scope : Scope) (path : Path) : Value := (scope.lookup path).getD (.text "")

namespace Template

variable {s t : Scope}

/-! ## Holes -/

/-- What a hole is filled with, unless it stays. -/
def Outcome.filling? : Outcome → Option Value
  | .found value => some value
  | .undefined => some (.text "")
  | .kept => none

/-- An outcome puts what it fills the text with in place of the text, or leaves the text. -/
theorem Outcome.replace_eq (text : String) (outcome : Outcome) :
    outcome.replace text = outcome.filling?.getD (.text text) := by
  cases outcome <;> rfl

/-- A hole resolves to the rendering of what it is filled with, or to its own text. -/
theorem resolved_hole (scope : Scope) (source : List Char) :
    (Segment.hole source).resolved scope =
      ((fill scope source).filling?.map fun value => value.render.toList).getD (Segment.hole source).text := by
  rw [Segment.resolved]
  cases fill scope source <;> rfl

/-- A path is used when it brings something that counts and is no hole, and else the alternatives
behind it are asked. -/
theorem firstUsable_path (scope : Scope) (named : Path) (rest : Expression) :
    firstUsable scope (.path named :: rest) =
      if (scope.brought named).isTruthy && !isBareHole (scope.brought named) then scope.brought named
      else firstUsable scope rest := by
  rw [firstUsable, Scope.brought]
  cases scope.lookup named <;> rfl

/-- A path that stands alone brings what it brings to a chain, usable or not. -/
theorem filling?_evaluate (scope : Scope) (expression : Expression) :
    (expression.evaluate scope).filling? =
      if expression.any (Alternative.waits scope) then none
      else
        match expression with
        | [.foreign _] => none
        | [.path named] => some (scope.brought named)
        | _ => some (firstUsable scope expression) := by
  unfold Expression.evaluate
  split
  · rfl
  · match expression with
    | [] => rfl
    | [.literal text] => rfl
    | [.token token] => rfl
    | [.foreign text] => rfl
    | [.path named] => cases found : scope.lookup named <;> simp [found, Scope.brought, Outcome.filling?]
    | first :: second :: rest => cases first <;> rfl

/-! ## Alternatives -/

/-- Alternatives that bring the same, each in its scope. -/
inductive Alternative.Matches (s t : Scope) : Alternative → Alternative → Prop
  | literal (text : String) : Matches s t (.literal text) (.literal text)
  | path {named other : Path} (serves_eq : s.serves named.root = t.serves other.root)
      (brought_eq : s.brought named = t.brought other) : Matches s t (.path named) (.path other)
  | token {token : Token} (current_eq : s.current token = t.current token) : Matches s t (.token token) (.token token)
  | foreign (text : String) : Matches s t (.foreign text) (.foreign text)

/-- An alternative matches itself. -/
theorem Alternative.Matches.refl (alternative : Alternative) : alternative.Matches s s alternative := by
  cases alternative with
  | literal text => exact .literal text
  | path named => exact .path rfl rfl
  | token token => exact .token rfl
  | foreign text => exact .foreign text

/-- Alternatives match in either direction. -/
theorem Alternative.Matches.symm {first second : Alternative} (alike : first.Matches s t second) :
    second.Matches t s first := by
  cases alike with
  | literal text => exact .literal text
  | path serves_eq brought_eq => exact .path serves_eq.symm brought_eq.symm
  | token current_eq => exact .token current_eq.symm
  | foreign text => exact .foreign text

/-- Alternatives that match a third one match each other. -/
theorem Alternative.Matches.trans {u : Scope} {first second third : Alternative} (alike : first.Matches s t second)
    (further : second.Matches t u third) : first.Matches s u third := by
  cases alike with
  | literal text =>
    cases further
    exact .literal text
  | path serves_eq brought_eq =>
    cases further with
    | path serves_eq' brought_eq' => exact .path (serves_eq.trans serves_eq') (brought_eq.trans brought_eq')
  | token current_eq =>
    cases further with
    | token current_eq' => exact .token (current_eq.trans current_eq')
  | foreign text =>
    cases further
    exact .foreign text

/-- Of two alternatives that match both wait or neither does. -/
theorem Alternative.Matches.waits_eq {first second : Alternative} (alike : first.Matches s t second) :
    first.waits s = second.waits t := by
  cases alike with
  | path serves_eq _ => rw [waits, waits, serves_eq]
  | _ => rfl

section

variable {first second : Expression} (alike : List.Forall₂ (Alternative.Matches s t) first second)
include alike

/-- The same of two expressions that match. -/
theorem any_waits_of_matching :
    first.any (Alternative.waits s) = second.any (Alternative.waits t) := by
  induction alike with
  | nil => rfl
  | cons here _ ih => rw [List.any_cons, List.any_cons, here.waits_eq, ih]

/-- Expressions that match use the same value. -/
theorem firstUsable_of_matching : firstUsable s first = firstUsable t second := by
  induction alike with
  | nil => rfl
  | cons here _ ih =>
    cases here with
    | literal text => rfl
    | path _ brought_eq => rw [firstUsable_path, firstUsable_path, brought_eq, ih]
    | token current_eq => exact current_eq
    | foreign text => exact ih

/-- Expressions that match fill a hole with the same. -/
theorem filling?_of_matching : (first.evaluate s).filling? = (second.evaluate t).filling? := by
  rw [filling?_evaluate, filling?_evaluate, any_waits_of_matching alike]
  have usable := firstUsable_of_matching alike
  cases alike with
  | nil => rfl
  | cons here later =>
    cases later with
    | nil =>
      cases here with
      | literal text => rfl
      | path _ brought_eq => simp only [brought_eq]
      | token => simp only [usable]
      | foreign text => rfl
    | cons next later => simp only [usable]

end

/-! ## Templates -/

/-- Segments that match. -/
inductive Segment.Matches (s t : Scope) : Segment → Segment → Prop
  | literal (text : List Char) : Matches s t (.literal text) (.literal text)
  | same {source : List Char} (filled : (fill s source).filling? = (fill t source).filling?) :
    Matches s t (.hole source) (.hole source)
  | holes {source other : List Char} {first second : Expression} (read : Expression.parse source = .ok first)
      (readOther : Expression.parse other = .ok second)
      (alike : List.Forall₂ (Alternative.Matches s t) first second) (settled : first.evaluate s ≠ .kept) :
    Matches s t (.hole source) (.hole other)

/-- Every outcome but that of a kept hole fills. -/
theorem filling?_ne_none {outcome : Outcome} (settled : outcome ≠ .kept) : outcome.filling? ≠ none := by
  cases outcome <;> simp_all [Outcome.filling?]

/-- Holes that match are filled with the same, and if they stay they are written alike. -/
theorem fill_of_matching {source other : List Char} (alike : Segment.Matches s t (.hole source) (.hole other)) :
    (fill s source).filling? = (fill t other).filling? ∧ ((fill s source).filling? = none → source = other) := by
  cases alike with
  | same filled => exact ⟨filled, fun _ => rfl⟩
  | holes read readOther alike settled =>
    simp only [fill, read, readOther]
    exact ⟨filling?_of_matching alike, fun stays => absurd stays (filling?_ne_none settled)⟩

/-- Segments that match resolve to the same text. -/
theorem resolved_of_matching {segment other : Segment} (alike : segment.Matches s t other) :
    segment.resolved s = other.resolved t := by
  cases segment with
  | literal text =>
    cases alike
    rfl
  | hole source =>
    cases other with
    | literal text => cases alike
    | hole otherSource =>
      obtain ⟨filled, stays⟩ := fill_of_matching alike
      rw [resolved_hole, resolved_hole, ← filled]
      cases outcome : (fill s source).filling? with
      | none => rw [stays outcome]
      | some value => rfl

/-- Texts that match are resolved to the same. -/
theorem resolveText_of_matching {text other : String}
    (alike : List.Forall₂ (Segment.Matches s t) (parse text.toList) (parse other.toList)) :
    resolveText s text = resolveText t other := by
  by_cases single : ∃ source, parse text.toList = [.hole source]
  · -- a hole and nothing else: the texts become values
    obtain ⟨source, single⟩ := single
    have whole := (parse_isFaithful text.toList).texts
    have otherWhole := (parse_isFaithful other.toList).texts
    rw [single] at alike whole
    obtain ⟨segment, rest, first, nothing, parsed⟩ := List.forall₂_cons_left_iff.mp alike
    rw [List.forall₂_nil_left_iff.mp nothing] at parsed
    cases segment with
    | literal text => cases first
    | hole otherSource =>
      obtain ⟨filled, stays⟩ := fill_of_matching first
      rw [resolveText_of_hole single, resolveText_of_hole parsed, Outcome.replace_eq, Outcome.replace_eq, ← filled]
      cases outcome : (fill s source).filling? with
      | none =>
        rw [parsed, ← stays outcome, whole] at otherWhole
        rw [String.toList_inj.mp otherWhole]
      | some value => rfl
  · -- several segments or none: the other text has as many, and no hole alone
    rw [not_exists] at single
    have several : ∀ source, parse other.toList ≠ [.hole source] := by
      intro source parsed
      rw [parsed] at alike
      obtain ⟨segment, rest, first, nothing, eq⟩ := List.forall₂_cons_right_iff.mp alike
      rw [List.forall₂_nil_right_iff.mp nothing] at eq
      cases segment with
      | literal text => cases first
      | hole otherSource => exact single otherSource eq
    have each : (parse text.toList).flatMap (Segment.resolved s) =
        (parse other.toList).flatMap (Segment.resolved t) := by
      generalize parse text.toList = segments, parse other.toList = others at alike
      clear single several
      induction alike with
      | nil => rfl
      | cons here _ ih => rw [List.flatMap_cons, List.flatMap_cons, resolved_of_matching here, ih]
    rw [resolveText_of_not_hole single, resolveText_of_not_hole several, each]

end Template

end Stepwise
