import Stepwise.Template.Resolution

/-!
# What a template depends on

A template mentions a namespace if a path of one of its holes starts there. Two scopes may differ in what
stands under one namespace and agree on everything else; then a template that does not mention it resolves
to the same in both, and so does a value all of whose texts are such templates.
-/

set_option autoImplicit false

namespace Stepwise

/-- Two scopes differ in nothing but what the paths of one namespace stand for. -/
structure Scope.AgreesExcept (root : Namespace) (s t : Scope) : Prop where
  serves_eq : s.serves = t.serves
  current_eq : s.current = t.current
  lookup_eq : ∀ path : Path, path.root ≠ root → s.lookup path = t.lookup path

namespace Template

/-- An alternative that is a path of the namespace. -/
def Alternative.mentions (root : Namespace) : Alternative → Bool
  | .path named => decide (named.root = root)
  | _ => false

/-- An expression of which an alternative is such a path. -/
def Expression.mentions (root : Namespace) (expression : Expression) : Bool :=
  expression.any (Alternative.mentions root)

/-- A hole with such an expression. -/
def Segment.mentions (root : Namespace) : Segment → Bool
  | .literal _ => false
  | .hole source =>
    match Expression.parse source with
    | .ok expression => expression.mentions root
    | .error _ => false

/-- A text with such a hole. -/
def textMentions (root : Namespace) (text : String) : Bool :=
  (parse text.toList).any (Segment.mentions root)

end Template

namespace Value

mutual

/-- A value with such a text somewhere in it. -/
def mentions (root : Namespace) : Value → Bool
  | .text s => Template.textMentions root s
  | .list items => mentionsItems root items
  | .record fields => mentionsFields root fields
  | _ => false

/-- Items with such a text. -/
def mentionsItems (root : Namespace) : List Value → Bool
  | [] => false
  | item :: rest => mentions root item || mentionsItems root rest

/-- Fields with such a text. -/
def mentionsFields (root : Namespace) : List (String × Value) → Bool
  | [] => false
  | (_, value) :: rest => mentions root value || mentionsFields root rest

end

end Value

/-! ## Resolving in scopes that agree

From the alternatives of a hole up to whole values: what does not mention the namespace resolves to the
same. -/

namespace Template

/-- What a chain gives depends on the tokens and on what its own paths stand for. -/
theorem firstUsable_congr {s t : Scope} (current_eq : s.current = t.current) {expression : Expression}
    (lookup_eq : ∀ named, Alternative.path named ∈ expression → s.lookup named = t.lookup named) :
    firstUsable s expression = firstUsable t expression := by
  induction expression with
  | nil => rfl
  | cons first rest ih =>
    have later := ih fun named member => lookup_eq named (List.mem_cons_of_mem first member)
    cases first with
    | literal text => rfl
    | token token => simp only [firstUsable, current_eq]
    | foreign text => simpa only [firstUsable] using later
    | path named => simp only [firstUsable, lookup_eq named (by simp), later]

/-- What an expression gives depends on which of its alternatives wait, and on what its own paths stand
for. -/
theorem evaluate_congr {s t : Scope} (current_eq : s.current = t.current) {expression : Expression}
    (waits_eq : ∀ alternative ∈ expression, alternative.waits s = alternative.waits t)
    (lookup_eq : ∀ named, Alternative.path named ∈ expression → s.lookup named = t.lookup named) :
    expression.evaluate s = expression.evaluate t := by
  have waiting : expression.any (Alternative.waits s) = expression.any (Alternative.waits t) := by
    rw [Bool.eq_iff_iff, List.any_eq_true, List.any_eq_true]
    refine exists_congr fun alternative => and_congr_right fun member => ?_
    rw [waits_eq alternative member]
  have usable := firstUsable_congr current_eq lookup_eq
  unfold Expression.evaluate
  rw [waiting, usable, current_eq]
  split
  · rfl
  · split
    case h_4 named _ => rw [lookup_eq named (by simp)]
    all_goals rfl

section Agreement

variable {root : Namespace} {s t : Scope} (agree : s.AgreesExcept root t)
include agree

/-- A hole that does not mention the namespace is filled alike. -/
theorem fill_congr {source : List Char} (unmentioned : (Segment.hole source).mentions root = false) :
    fill s source = fill t source := by
  unfold Segment.mentions at unmentioned
  unfold fill
  cases parsed : Expression.parse source with
  | error _ => rfl
  | ok expression =>
    simp only [parsed, Expression.mentions, List.any_eq_false] at unmentioned
    refine evaluate_congr agree.current_eq (fun alternative _ => ?_) fun named member => ?_
    · cases alternative with
      | path named => simp only [Alternative.waits, agree.serves_eq]
      | _ => rfl
    · apply agree.lookup_eq named
      simpa [Alternative.mentions] using unmentioned (.path named) member

/-- A segment that does not mention the namespace resolves alike. -/
theorem resolved_congr {segment : Segment} (unmentioned : segment.mentions root = false) :
    segment.resolved s = segment.resolved t := by
  cases segment with
  | literal text => rfl
  | hole source => simp only [Segment.resolved, fill_congr agree unmentioned]

/-- So does a text none of whose holes mentions it. -/
theorem resolveText_congr {text : String} (unmentioned : textMentions root text = false) :
    resolveText s text = resolveText t text := by
  unfold textMentions at unmentioned
  rw [List.any_eq_false] at unmentioned
  have each : ∀ segment ∈ parse text.toList, segment.resolved s = segment.resolved t := by
    intro segment member
    exact resolved_congr agree (by simpa using unmentioned segment member)
  unfold resolveText
  split
  · rename_i source single
    have filled : fill s source = fill t source := by
      apply fill_congr agree
      simpa [single] using unmentioned
    rw [filled]
  · simp only [List.flatMap_def, List.map_congr_left each]

end Agreement

end Template

namespace Value

variable {root : Namespace} {s t : Scope}

mutual

/-- So does a value, by induction on the value, when no text in it mentions the namespace. -/
theorem resolve_congr (agree : s.AgreesExcept root t) (value : Value)
    (unmentioned : value.mentions root = false) : value.resolve s = value.resolve t := by
  cases value with
  | text text => exact Template.resolveText_congr agree unmentioned
  | list items => rw [resolve, resolve, resolveItems_congr agree items unmentioned]
  | record fields => rw [resolve, resolve, resolveFields_congr agree fields unmentioned]
  | _ => rfl

/-- The same of the items of a list. -/
theorem resolveItems_congr (agree : s.AgreesExcept root t) (items : List Value)
    (unmentioned : mentionsItems root items = false) :
    resolveItems s items = resolveItems t items := by
  cases items with
  | nil => rfl
  | cons item rest =>
    simp only [mentionsItems, Bool.or_eq_false_iff] at unmentioned
    rw [resolveItems, resolveItems, resolve_congr agree item unmentioned.1,
      resolveItems_congr agree rest unmentioned.2]

/-- The same of the fields of a record. -/
theorem resolveFields_congr (agree : s.AgreesExcept root t) (fields : List (String × Value))
    (unmentioned : mentionsFields root fields = false) :
    resolveFields s fields = resolveFields t fields := by
  cases fields with
  | nil => rfl
  | cons field rest =>
    obtain ⟨name, value⟩ := field
    simp only [mentionsFields, Bool.or_eq_false_iff] at unmentioned
    rw [resolveFields, resolveFields, resolve_congr agree value unmentioned.1,
      resolveFields_congr agree rest unmentioned.2]

end

end Value

end Stepwise
