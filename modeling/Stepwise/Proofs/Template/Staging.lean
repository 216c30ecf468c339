import Stepwise.Proofs.Template.Agreement
import Stepwise.Proofs.Template.Lossless
import Stepwise.Proofs.Value.Words
import Stepwise.Run.Context

/-!
# Resolving in stages

Templates are resolved in the scope at hand, and holes that have to wait are left for a scope that serves
more: the environment comes before the run, and the run before the record. Resolving in both scopes one after
the other should give what the last one gives at once. The first pass rewrites the text that the second one
reads, but holes that end at their own brace are found again as long as what is written between them has no
dollar. The passes differ from one for a single reason: a text is resolved to a value if it is one hole and
nothing else, and a text of several holes can become one when all the others are resolved to nothing.
-/

set_option autoImplicit false

namespace Stepwise

/-! ## Scopes of two stages -/

/-- A scope of a later stage serves what the earlier one serves, leads the paths of these namespaces to the
same values, and has the same tokens. -/
structure Scope.Within (inner outer : Scope) : Prop where
  serves : ∀ root, inner.serves root = true → outer.serves root = true
  lookup_eq : ∀ path : Path, inner.serves path.root = true → outer.lookup path = inner.lookup path
  current_eq : outer.current = inner.current

/-- Every scope is within itself. -/
theorem Scope.Within.refl (scope : Scope) : scope.Within scope where
  serves _ served := served
  lookup_eq _ _ := rfl
  current_eq := rfl

namespace Context

/-- The environment by itself comes before the run. -/
theorem environmentScope_within (ctx : Context) :
    (environmentScope ctx.environment ctx.outside.current).Within ctx.scope where
  serves root served := by
    have environment : root = .env := by simpa [environmentScope] using served
    simp [scope, environment]
  lookup_eq path served := by
    have environment : path.root = .env := by simpa [environmentScope] using served
    simp [scope, lookup, environmentScope, environment]
  current_eq := rfl

/-- The run comes before a record. -/
theorem scope_within (ctx : Context) (item : Value) : ctx.scope.Within (ctx.itemScope item) where
  serves _ _ := rfl
  lookup_eq path served := by
    have elsewhere : path.root ≠ .item := by simpa [scope] using served
    simp [scope, itemScope, elsewhere]
  current_eq := rfl

end Context

namespace Template

/-- A hole that a scope leaves for a later stage. -/
def isDeferred (scope : Scope) (source : List Char) : Bool :=
  match fill scope source with
  | .kept => true
  | _ => false

/-- A hole is deferred when it is kept. -/
theorem isDeferred_iff {scope : Scope} {source : List Char} :
    isDeferred scope source = true ↔ fill scope source = .kept := by
  unfold isDeferred
  cases fill scope source <;> simp

/-- What one scope does not defer, a later one fills alike. -/
theorem fill_eq_of_within {inner outer : Scope} (within : inner.Within outer) {source : List Char}
    (settled : fill inner source ≠ .kept) : fill outer source = fill inner source := by
  unfold fill at settled ⊢
  cases parsed : Expression.parse source with
  | error _ => rfl
  | ok expression =>
    simp only [parsed] at settled
    have none_waits : expression.any (Alternative.waits inner) = false := by
      by_contra waits
      rw [Bool.not_eq_false] at waits
      simp [Expression.evaluate, waits] at settled
    have served : ∀ named, Alternative.path named ∈ expression → inner.serves named.root = true := by
      intro named member
      simpa [Alternative.waits] using List.any_eq_false.mp none_waits (.path named) member
    refine evaluate_congr within.current_eq (fun alternative member => ?_) fun named member => ?_
    · cases alternative with
      | path named =>
        have here := served named member
        simp only [Alternative.waits, here, within.serves named.root here]
      | _ => rfl
    · exact within.lookup_eq named (served named member)

/-! ## Stable texts -/

/-- What a hole is filled with has no dollar in its words. -/
def Outcome.IsInert : Outcome → Prop
  | .found value => value.IsInert
  | _ => True

/-- Whether an outcome brings no dollar can be decided. -/
instance : DecidablePred Outcome.IsInert
  | .found value => inferInstanceAs (Decidable value.IsInert)
  | .undefined => isTrue trivial
  | .kept => isTrue trivial

/-- A segment that can be resolved in stages that begin with a scope: literal text without a dollar, or a hole
that ends at its own brace and is not filled with a dollar. -/
def Segment.IsStable (scope : Scope) : Segment → Prop
  | .literal text => '$' ∉ text
  | .hole source => ClosesItself source ∧ (fill scope source).IsInert

/-- Whether a segment is stable can be decided. -/
instance (scope : Scope) : DecidablePred (Segment.IsStable scope)
  | .literal text => inferInstanceAs (Decidable ('$' ∉ text))
  | .hole source => inferInstanceAs (Decidable (ClosesItself source ∧ (fill scope source).IsInert))

/-- A text of such segments. -/
def IsStable (scope : Scope) (text : String) : Prop := ∀ segment ∈ parse text.toList, segment.IsStable scope

/-- Whether a text is stable can be decided. -/
instance (scope : Scope) (text : String) : Decidable (IsStable scope text) :=
  inferInstanceAs (Decidable (∀ _ ∈ _, _))

/-- A text of which a later stage makes a value of its own where a single pass makes text: of several
segments, the earlier stage defers one and resolves all the others to nothing, and the one is filled with
something other than text. -/
def Collapses (inner outer : Scope) (text : String) : Prop :=
  ∃ front source back value, parse text.toList = front ++ .hole source :: back ∧ front ++ back ≠ [] ∧
    (∀ segment ∈ front ++ back, segment.resolved inner = []) ∧ fill inner source = .kept ∧
    fill outer source = .found value ∧ value.asText? = none

/-! ## One text in stages -/

/-- What a later stage reads a segment as: a hole if it was deferred, else literal text. -/
def Segment.passed (scope : Scope) : Segment → Segment
  | .literal text => .literal text
  | .hole source =>
    if isDeferred scope source then .hole source else .literal ((Segment.hole source).resolved scope)

/-- What a stage passes on is written as what it resolves to. -/
theorem Segment.text_passed (scope : Scope) (segment : Segment) :
    (segment.passed scope).text = segment.resolved scope := by
  cases segment with
  | literal text => rfl
  | hole source =>
    rw [Segment.passed]
    split
    · rename_i deferred
      simp [Segment.resolved, isDeferred_iff.mp deferred]
    · rfl

/-- A stable segment is closed for the later stage. -/
theorem Segment.IsStable.isClosed_passed {scope : Scope} {segment : Segment}
    (stable : segment.IsStable scope)
    (substantial : ∀ source, segment = .hole source → Text.IsSubstantial source) :
    (segment.passed scope).IsClosed := by
  cases segment with
  | literal text => exact stable
  | hole source =>
    rw [Segment.passed]
    split
    · exact ⟨stable.1, substantial source rfl⟩
    · have inert := stable.2
      simp only [Segment.IsClosed, Segment.resolved]
      cases filled : fill scope source with
      | found value =>
        rw [filled] at inert
        exact Value.IsInert.dollar_not_mem_render inert
      | undefined => simp
      | kept =>
        rename_i settled
        exact absurd (isDeferred_iff.mpr filled) settled

/-- The later stage makes the same of a segment as it would have made at once. -/
theorem Segment.resolved_passed {inner outer : Scope} (within : inner.Within outer) (segment : Segment) :
    (segment.passed inner).resolved outer = segment.resolved outer := by
  cases segment with
  | literal text => rfl
  | hole source =>
    rw [Segment.passed]
    split
    · rfl
    · rename_i settled
      have filled : fill outer source = fill inner source :=
        fill_eq_of_within within fun kept => settled (isDeferred_iff.mpr kept)
      simp only [Segment.resolved, filled]

/-- What a text becomes that is one hole and nothing else. -/
def Outcome.replace (text : String) : Outcome → Value
  | .found value => value
  | .undefined => .text ""
  | .kept => .text text

/-- The raw text of a hole that is a whole text is that text. -/
theorem text_of_hole {text : String} {source : List Char} (single : parse text.toList = [.hole source]) :
    String.ofList (Segment.hole source).text = text := by
  have texts := (parse_isFaithful text.toList).texts
  rw [single, List.flatMap_singleton] at texts
  rw [texts, String.ofList_toList]

/-- A text that is one hole becomes what comes of the hole; a hole that is kept stands for itself. -/
theorem resolveText_of_hole {scope : Scope} {text : String} {source : List Char}
    (single : parse text.toList = [.hole source]) :
    resolveText scope text = (fill scope source).replace text := by
  simp only [resolveText, single]
  cases fill scope source with
  | found value => rfl
  | undefined => rfl
  | kept => rw [text_of_hole single, Outcome.replace]

/-- A hole by itself gives what it gives inside a text, unless that is something other than text. -/
theorem replace_eq_iff {scope : Scope} {source : List Char} :
    (fill scope source).replace (String.ofList (Segment.hole source).text) =
        .text (String.ofList ((Segment.hole source).resolved scope)) ↔
      ∀ value, fill scope source = .found value → value.asText? ≠ none := by
  cases filled : fill scope source with
  | kept => simp [Outcome.replace, Segment.resolved, filled]
  | undefined => simp [Outcome.replace, Segment.resolved, filled]
  | found value =>
    cases value <;> simp [Outcome.replace, Segment.resolved, filled, Value.asText?, Value.render]

/-- A text that is not a single hole resolves to the texts of its segments. -/
theorem resolveText_of_not_hole {scope : Scope} {text : String}
    (several : ∀ source, parse text.toList ≠ [.hole source]) :
    resolveText scope text = .text (String.ofList ((parse text.toList).flatMap (Segment.resolved scope))) := by
  rw [resolveText]
  split
  · rename_i source single
    exact absurd single (several source)
  · rfl

/-- A text without a dollar is one literal, and resolves to itself. -/
theorem resolveText_of_not_dollar (scope : Scope) {text : String} (absent : '$' ∉ text.toList) :
    parse text.toList = literally text.toList ∧ resolveText scope text = .text text := by
  have parsed : parse text.toList = literally text.toList := scan_literal (not_opening_of_not_dollar absent)
  have noHole : ∀ source, parse text.toList ≠ [.hole source] := by
    intro source single
    rw [parsed, literally] at single
    split at single <;> simp at single
  refine ⟨parsed, ?_⟩
  rw [resolveText_of_not_hole noHole, parsed, flatMap_literally fun _ => rfl, String.ofList_toList]

end Template

namespace Value

mutual

/-- A value without a dollar is what it is in every scope. -/
theorem resolve_of_inert (scope : Scope) (value : Value) (inert : ∀ word ∈ value.words, '$' ∉ word.toList) :
    value.resolve scope = value := by
  cases value with
  | text s => exact (Template.resolveText_of_not_dollar scope (inert s (by simp [words]))).2
  | list items => rw [resolve, resolveItems_of_inert scope items inert]
  | record fields => rw [resolve, resolveFields_of_inert scope fields inert]
  | _ => rfl

/-- Items without a dollar resolve to themselves. -/
theorem resolveItems_of_inert (scope : Scope) (items : List Value)
    (inert : ∀ word ∈ wordsOfItems items, '$' ∉ word.toList) : resolveItems scope items = items := by
  cases items with
  | nil => rfl
  | cons item rest =>
    rw [wordsOfItems, List.forall_mem_append] at inert
    rw [resolveItems, resolve_of_inert scope item inert.1, resolveItems_of_inert scope rest inert.2]

/-- Fields without a dollar resolve to themselves. -/
theorem resolveFields_of_inert (scope : Scope) (fields : List (String × Value))
    (inert : ∀ word ∈ wordsOfFields fields, '$' ∉ word.toList) : resolveFields scope fields = fields := by
  cases fields with
  | nil => rfl
  | cons field rest =>
    obtain ⟨name, value⟩ := field
    rw [wordsOfFields, List.forall_mem_cons, List.forall_mem_append] at inert
    rw [resolveFields, resolve_of_inert scope value inert.2.1, resolveFields_of_inert scope rest inert.2.2]

end

end Value

namespace Template

/-- Nothing is passed on of a segment that resolves to nothing. -/
theorem Segment.passed_eq_empty {scope : Scope} {segment : Segment} :
    segment.passed scope = .literal [] ↔ segment.resolved scope = [] := by
  rw [← segment.text_passed scope]
  cases segment.passed scope <;> simp [Segment.text, opening]

/-- A hole is passed on just when it is a hole that is kept. -/
theorem Segment.passed_eq_hole {scope : Scope} {segment : Segment} {source : List Char} :
    segment.passed scope = .hole source ↔ segment = .hole source ∧ fill scope source = .kept := by
  rw [← isDeferred_iff]
  cases segment with
  | literal text => simp [Segment.passed]
  | hole other =>
    rw [Segment.passed]
    split
    · rename_i deferred
      simp only [Segment.hole.injEq]
      exact ⟨fun same => ⟨same, same ▸ deferred⟩, fun both => both.1⟩
    · rename_i settled
      simp only [Segment.hole.injEq, reduceCtorEq, false_iff]
      rintro ⟨rfl, deferred⟩
      exact settled deferred

/-- The later stage reads a single hole if the earlier one deferred it and resolved all the rest to
nothing. -/
theorem fuse_passed_eq_hole {scope : Scope} {segments : List Segment} {source : List Char} :
    fuse [] (segments.map (Segment.passed scope)) = [.hole source] ↔
      ∃ front back, segments = front ++ .hole source :: back ∧ fill scope source = .kept ∧
        ∀ segment ∈ front ++ back, segment.resolved scope = [] := by
  rw [fuse_eq_hole]
  constructor
  · rintro ⟨-, front, back, whole, empty⟩
    obtain ⟨before, others, rfl, rfl, others_eq⟩ := List.map_eq_append_iff.mp whole
    obtain ⟨segment, after, rfl, segment_eq, rfl⟩ := List.map_eq_cons_iff.mp others_eq
    obtain ⟨rfl, kept⟩ := Segment.passed_eq_hole.mp segment_eq
    refine ⟨before, after, rfl, kept, fun segment member => Segment.passed_eq_empty.mp ?_⟩
    apply empty
    rw [← List.map_append]
    exact List.mem_map_of_mem member
  · rintro ⟨front, back, rfl, kept, empty⟩
    refine ⟨rfl, front.map (Segment.passed scope), back.map (Segment.passed scope), ?_, ?_⟩
    · rw [List.map_append, List.map_cons, Segment.passed_eq_hole.mpr ⟨rfl, kept⟩]
    · rw [← List.map_append]
      intro passed member
      obtain ⟨segment, among, rfl⟩ := List.mem_map.mp member
      exact Segment.passed_eq_empty.mpr (empty segment among)

section

variable {inner outer : Scope} {text : String} (stable : IsStable inner text)

include stable

/-- The later stage reads the segments that the earlier one passed on. -/
theorem parse_resolved :
    parse ((parse text.toList).flatMap (Segment.resolved inner)) =
      fuse [] ((parse text.toList).map (Segment.passed inner)) := by
  have closed : ∀ segment ∈ (parse text.toList).map (Segment.passed inner), segment.IsClosed := by
    intro passed member
    obtain ⟨segment, among, rfl⟩ := List.mem_map.mp member
    refine (stable segment among).isClosed_passed fun source same => ?_
    exact substantial_of_mem_scan [] text.toList source (same ▸ among)
  have texts : (parse text.toList).flatMap (Segment.resolved inner) =
      ((parse text.toList).map (Segment.passed inner)).flatMap Segment.text := by
    rw [List.flatMap_map]
    simp only [Segment.text_passed]
  rw [texts]
  exact scan_texts List.not_mem_nil closed

omit stable in
/-- What the later stage makes of the segments that it reads it would have made of the text at once. -/
theorem flatMap_passed (within : inner.Within outer) :
    (fuse [] ((parse text.toList).map (Segment.passed inner))).flatMap (Segment.resolved outer) =
      (parse text.toList).flatMap (Segment.resolved outer) := by
  rw [flatMap_fuse fun _ => rfl, List.nil_append, List.flatMap_map]
  simp only [Segment.resolved_passed within]

omit stable in
/-- A text of several segments collapses if the later stage reads a single hole and fills it with something
other than text. -/
theorem collapses_iff (several : ∀ source, parse text.toList ≠ [.hole source]) :
    Collapses inner outer text ↔ ∃ source value,
      fuse [] ((parse text.toList).map (Segment.passed inner)) = [.hole source] ∧
        fill outer source = .found value ∧ value.asText? = none := by
  constructor
  · rintro ⟨front, source, back, value, whole, -, empty, kept, found, notText⟩
    exact ⟨source, value, fuse_passed_eq_hole.mpr ⟨front, back, whole, kept, empty⟩, found, notText⟩
  · rintro ⟨source, value, read, found, notText⟩
    obtain ⟨front, back, whole, kept, empty⟩ := fuse_passed_eq_hole.mp read
    refine ⟨front, source, back, value, whole, ?_, empty, kept, found, notText⟩
    intro alone
    obtain ⟨rfl, rfl⟩ := List.append_eq_nil_iff.mp alone
    exact several source whole

/-- A text that is one hole can be resolved in two stages. -/
theorem resolve_resolveText_of_hole (within : inner.Within outer) {source : List Char}
    (single : parse text.toList = [.hole source]) :
    (resolveText inner text).resolve outer = resolveText outer text := by
  rw [resolveText_of_hole single]
  by_cases kept : fill inner source = .kept
  · rw [kept]
    rfl
  · have later : fill outer source = fill inner source := fill_eq_of_within within kept
    rw [resolveText_of_hole single, later]
    have hole_stable : (fill inner source).IsInert := (stable (.hole source) (by simp [single])).2
    cases filled : fill inner source with
    | kept => exact absurd filled kept
    | undefined => exact (resolveText_of_not_dollar outer (by decide)).2
    | found value =>
      rw [filled] at hole_stable
      exact value.resolve_of_inert outer hole_stable

/-- Any other text can be resolved in two stages, unless it collapses. -/
theorem resolve_resolveText_of_not_hole (within : inner.Within outer)
    (several : ∀ source, parse text.toList ≠ [.hole source]) :
    (resolveText inner text).resolve outer = resolveText outer text ↔ ¬ Collapses inner outer text := by
  have first : resolveText inner text = .text (String.ofList _) := resolveText_of_not_hole several
  have at_once : resolveText outer text = .text (String.ofList _) := resolveText_of_not_hole several
  have read := parse_resolved stable
  rw [← flatMap_passed within] at at_once
  rw [← flatMap_passed (Scope.Within.refl inner)] at first read
  rw [collapses_iff several, first, at_once, Value.resolve]
  -- only if the later stage reads a single hole can it make something other than text
  by_cases single : ∃ source, fuse [] ((parse text.toList).map (Segment.passed inner)) = [.hole source]
  · obtain ⟨source, single⟩ := single
    obtain ⟨-, -, -, kept, -⟩ := fuse_passed_eq_hole.mp single
    have left : (Segment.hole source).resolved inner = (Segment.hole source).text := by
      simp [Segment.resolved, kept]
    simp only [single, List.flatMap_singleton, left] at read ⊢
    have again : parse (String.ofList (Segment.hole source).text).toList = [.hole source] := by
      rw [String.toList_ofList, read]
    rw [resolveText_of_hole again, replace_eq_iff]
    simp
  · rw [not_exists] at single
    rw [resolveText_of_not_hole, String.toList_ofList, read]
    · simp [single]
    · intro source same
      rw [String.toList_ofList, read] at same
      exact single source same

/-- Resolving a text in two stages gives what the later one gives at once, unless the text collapses. -/
theorem resolve_resolveText (within : inner.Within outer) :
    (resolveText inner text).resolve outer = resolveText outer text ↔ ¬ Collapses inner outer text := by
  by_cases single : ∃ source, parse text.toList = [.hole source]
  · obtain ⟨source, single⟩ := single
    refine iff_of_true (resolve_resolveText_of_hole stable within single) ?_
    rintro ⟨front, other, back, -, several, beside, -⟩
    rw [single] at several
    have lengths := congrArg List.length several
    simp only [List.length_append, List.length_cons, List.length_nil] at lengths
    apply beside
    rw [← List.length_eq_zero_iff, List.length_append]
    omega
  · exact resolve_resolveText_of_not_hole stable within fun source same => single ⟨source, same⟩

end

/-! ## Deferred holes -/

/-- The sources of the holes of a text. -/
def holesOf (text : String) : List (List Char) := (parse text.toList).filterMap Segment.source?

/-- A text without a dollar has no holes. -/
theorem holesOf_of_not_dollar {text : String} (absent : '$' ∉ text.toList) : holesOf text = [] := by
  have parsed := (resolveText_of_not_dollar ⟨fun _ => false, fun _ => none, fun _ => .null⟩ absent).1
  rw [holesOf, parsed, literally]
  split <;> simp [Segment.source?]

end Template

namespace Value

/-- The sources of the holes of the texts in a value. -/
def holes (value : Value) : List (List Char) := value.texts.flatMap Template.holesOf

/-- Nor has a value without one. -/
theorem IsInert.holes_eq {value : Value} (inert : value.IsInert) : value.holes = [] := by
  rw [holes, List.flatMap_eq_nil_iff]
  intro text member
  exact Template.holesOf_of_not_dollar (inert text (value.texts_subset_words member))

end Value

namespace Template

/-- A segment that is passed on is a hole if it was one that is deferred. -/
theorem Segment.source?_passed (scope : Scope) (segment : Segment) :
    (segment.passed scope).source? = segment.source?.filter (isDeferred scope) := by
  cases segment with
  | literal text => rfl
  | hole source =>
    rw [Segment.passed, Segment.source?, Option.filter_some]
    split <;> rfl

/-- The holes that a text is left with are those that are deferred. -/
theorem holes_resolveText {scope : Scope} {text : String} (stable : IsStable scope text) :
    (resolveText scope text).holes = (holesOf text).filter (isDeferred scope) := by
  have holes_text : ∀ text : String, (Value.text text).holes = holesOf text := by
    simp [Value.holes, Value.texts]
  by_cases single : ∃ source, parse text.toList = [.hole source]
  · obtain ⟨source, single⟩ := single
    have hole_stable : (fill scope source).IsInert := (stable (.hole source) (by simp [single])).2
    have hole_eq : holesOf text = [source] := by simp [holesOf, single, Segment.source?]
    rw [resolveText_of_hole single, hole_eq]
    cases filled : fill scope source with
    | kept => simp [Outcome.replace, holes_text, hole_eq, isDeferred, filled]
    | undefined =>
      have nothing : holesOf "" = [] := holesOf_of_not_dollar (by decide)
      rw [Outcome.replace, holes_text, nothing]
      simp [isDeferred, filled]
    | found value =>
      rw [filled] at hole_stable
      have nothing : value.holes = [] := Value.IsInert.holes_eq hole_stable
      simp [Outcome.replace, nothing, isDeferred, filled]
  · rw [not_exists] at single
    rw [resolveText_of_not_hole single, holes_text, holesOf, holesOf, String.toList_ofList,
      parse_resolved stable, filterMap_fuse, List.filterMap_map, List.filter_filterMap]
    simp only [Function.comp_def, Segment.source?_passed]

end Template

namespace Value

/-! ## Values in stages -/

variable {inner outer : Scope}

mutual

/-- Resolving a value in two stages gives what the later one gives at once, unless one of its texts
collapses. -/
theorem resolve_resolve (within : inner.Within outer) (value : Value)
    (stable : ∀ text ∈ value.texts, Template.IsStable inner text) :
    (value.resolve inner).resolve outer = value.resolve outer ↔
      ∀ text ∈ value.texts, ¬ Template.Collapses inner outer text := by
  cases value with
  | text text =>
    rw [texts, List.forall_mem_singleton] at stable ⊢
    exact Template.resolve_resolveText stable within
  | list items =>
    rw [resolve, resolve, resolve, Value.list.injEq]
    exact resolveItems_resolveItems within items stable
  | record fields =>
    rw [resolve, resolve, resolve, Value.record.injEq]
    exact resolveFields_resolveFields within fields stable
  | _ => simp [resolve, texts]

/-- Two stages and one agree on the items of a list just when no text in them collapses. -/
theorem resolveItems_resolveItems (within : inner.Within outer) (items : List Value)
    (stable : ∀ text ∈ textsOfItems items, Template.IsStable inner text) :
    resolveItems outer (resolveItems inner items) = resolveItems outer items ↔
      ∀ text ∈ textsOfItems items, ¬ Template.Collapses inner outer text := by
  cases items with
  | nil => simp [resolveItems, textsOfItems]
  | cons item rest =>
    rw [textsOfItems, List.forall_mem_append] at stable
    rw [resolveItems, resolveItems, resolveItems, List.cons.injEq, resolve_resolve within item stable.1,
      resolveItems_resolveItems within rest stable.2, textsOfItems, List.forall_mem_append]

/-- Two stages and one agree on the fields of a record just when no text in them collapses. -/
theorem resolveFields_resolveFields (within : inner.Within outer) (fields : List (String × Value))
    (stable : ∀ text ∈ textsOfFields fields, Template.IsStable inner text) :
    resolveFields outer (resolveFields inner fields) = resolveFields outer fields ↔
      ∀ text ∈ textsOfFields fields, ¬ Template.Collapses inner outer text := by
  cases fields with
  | nil => simp [resolveFields, textsOfFields]
  | cons field rest =>
    obtain ⟨name, value⟩ := field
    rw [textsOfFields, List.forall_mem_append] at stable
    rw [resolveFields, resolveFields, resolveFields, List.cons.injEq, Prod.mk.injEq,
      resolve_resolve within value stable.1, resolveFields_resolveFields within rest stable.2, textsOfFields,
      List.forall_mem_append]
    simp

end

mutual

/-- What is left of the holes of a value are those that are deferred. -/
theorem holes_resolve (scope : Scope) (value : Value)
    (stable : ∀ text ∈ value.texts, Template.IsStable scope text) :
    (value.resolve scope).texts.flatMap Template.holesOf =
      (value.texts.flatMap Template.holesOf).filter (Template.isDeferred scope) := by
  cases value with
  | text text =>
    rw [texts, List.forall_mem_singleton] at stable
    rw [texts, List.flatMap_singleton]
    exact Template.holes_resolveText stable
  | list items => exact holes_resolveItems scope items stable
  | record fields => exact holes_resolveFields scope fields stable
  | _ => rfl

/-- The holes left in the items of a list are those that were deferred, in order. -/
theorem holes_resolveItems (scope : Scope) (items : List Value)
    (stable : ∀ text ∈ textsOfItems items, Template.IsStable scope text) :
    (textsOfItems (resolveItems scope items)).flatMap Template.holesOf =
      ((textsOfItems items).flatMap Template.holesOf).filter (Template.isDeferred scope) := by
  cases items with
  | nil => rfl
  | cons item rest =>
    rw [textsOfItems, List.forall_mem_append] at stable
    rw [resolveItems, textsOfItems, textsOfItems, List.flatMap_append, List.flatMap_append,
      List.filter_append, holes_resolve scope item stable.1, holes_resolveItems scope rest stable.2]

/-- The holes left in the fields of a record are those that were deferred, in order. -/
theorem holes_resolveFields (scope : Scope) (fields : List (String × Value))
    (stable : ∀ text ∈ textsOfFields fields, Template.IsStable scope text) :
    (textsOfFields (resolveFields scope fields)).flatMap Template.holesOf =
      ((textsOfFields fields).flatMap Template.holesOf).filter (Template.isDeferred scope) := by
  cases fields with
  | nil => rfl
  | cons field rest =>
    obtain ⟨name, value⟩ := field
    rw [textsOfFields, List.forall_mem_append] at stable
    rw [resolveFields, textsOfFields, textsOfFields, List.flatMap_append, List.flatMap_append,
      List.filter_append, holes_resolve scope value stable.1, holes_resolveFields scope rest stable.2]

end

/-- Resolving in stages. In a value all of whose texts are stable, the earlier stage leaves exactly the holes
that it defers, as they are; the later stage then gives what it gives at once, unless it makes a value of its
own of a text of which the earlier stage left a single hole; and a stage that is repeated changes nothing. -/
theorem resolve_staged (within : inner.Within outer) {value : Value}
    (stable : ∀ text ∈ value.texts, Template.IsStable inner text) :
    ((value.resolve inner).resolve outer = value.resolve outer ↔
      ∀ text ∈ value.texts, ¬ Template.Collapses inner outer text) ∧
    (value.resolve inner).holes = value.holes.filter (Template.isDeferred inner) ∧
    (value.resolve inner).resolve inner = value.resolve inner := by
  refine ⟨resolve_resolve within value stable, holes_resolve inner value stable, ?_⟩
  rw [resolve_resolve (Scope.Within.refl inner) value stable]
  rintro text - ⟨front, source, back, found, -, -, -, kept, filled, -⟩
  rw [kept] at filled
  cases filled

end Value

/-- A run with two variables, one of them empty. -/
def Context.stagedTrial : Context :=
  { Context.start [] [] ⟨0, none, fun _ => .null, fun _ => .error "", (0, 0), [], []⟩ with
    vars := [("count", .count 2), ("empty", .text "")] }

/-- A record with a name and a number. -/
def Value.recordTrial : Value := .record [("name", .text "Ada"), ("number", .count 5)]

namespace Value

/-- Parameters whose holes are filled in part by the run and in part by the record. -/
def parametersTrial : Value :=
  .record [("greeting", .text "$\x7bitem.name || 'you'\x7d, $\x7bvars.count\x7d of them"),
    ("rest", .list [.text "$\x7bvars.empty\x7d", .text "$\x7bitem.number\x7d"])]

/-- The parameters can be resolved in the run and then for the record. -/
theorem resolve_staged_trial :
    let inner := Context.stagedTrial.scope
    let outer := Context.stagedTrial.itemScope recordTrial
    (∀ text ∈ parametersTrial.texts, Template.IsStable inner text) ∧
      ((parametersTrial.resolve inner).resolve outer = parametersTrial.resolve outer ↔
        ∀ text ∈ parametersTrial.texts, ¬ Template.Collapses inner outer text) ∧
      (parametersTrial.resolve inner).holes = ["item.name || 'you'".toList, "item.number".toList] ∧
      ((parametersTrial.resolve inner).resolve outer).compact =
        "\x7b\"greeting\":\"Ada, 2 of them\",\"rest\":[\"\",5]\x7d" := by
  intro inner outer
  have stable : ∀ text ∈ parametersTrial.texts, Template.IsStable inner text := by decide +kernel
  have within : inner.Within outer := Context.stagedTrial.scope_within recordTrial
  obtain ⟨twice, deferred, -⟩ := resolve_staged within stable
  refine ⟨stable, twice, ?_, by decide +kernel⟩
  rw [deferred]
  decide +kernel

/-- A text of two holes, the first of which the run resolves to nothing, becomes a number when the record
comes later, and a text when it comes at once. -/
theorem staged_text_collapses :
    let inner := Context.stagedTrial.scope
    let outer := Context.stagedTrial.itemScope recordTrial
    let value := Value.text "$\x7bvars.empty\x7d$\x7bitem.number\x7d"
    inner.Within outer ∧ (∀ text ∈ value.texts, Template.IsStable inner text) ∧
      ((value.resolve inner).resolve outer).compact = "5" ∧ (value.resolve outer).compact = "\"5\"" :=
  ⟨Context.stagedTrial.scope_within recordTrial, by decide +kernel, by decide +kernel, by decide +kernel⟩

end Value

end Stepwise
