import Stepwise.Proofs.Template.Spelling
import Stepwise.Proofs.Template.Staging

/-!
# Holes that stay

Resolving leaves a hole as it is written if it cannot be read, if it holds nothing but foreign text, or if it
mentions a namespace that the scope does not serve. A value all of whose holes are of these kinds is resolved to
itself: the scan loses nothing of its texts, so the pieces that stay make up the texts again. Texts without
holes belong here, too, and these are the texts in which every opening is that of a blank hole or has no brace
behind it.
-/

set_option autoImplicit false

namespace Stepwise

namespace Template

open Stepwise.Text

/-- A hole that a scope does not fill. -/
inductive IsUnfillable (scope : Scope) (source : List Char) : Prop
  | unreadable (error : TemplateError) (read : Expression.parse source = .error error)
  | foreign (text : String) (read : Expression.parse source = .ok [.foreign text])
  | unserved (expression : Expression) (path : Path) (read : Expression.parse source = .ok expression)
      (mentioned : .path path ∈ expression) (refused : scope.serves path.root = false)

variable {scope : Scope} {source : List Char} {expression : Expression}

/-- Some alternative waits when a path of a namespace that is not served is among them. -/
theorem any_waits_iff : expression.any (Alternative.waits scope) = true ↔
    ∃ path, .path path ∈ expression ∧ scope.serves path.root = false := by
  rw [List.any_eq_true]
  constructor
  · rintro ⟨alternative, among, waits⟩
    cases alternative with
    | path path => exact ⟨path, among, by simpa [Alternative.waits] using waits⟩
    | _ => cases waits
  · rintro ⟨path, among, refused⟩
    exact ⟨.path path, among, by simp [Alternative.waits, refused]⟩

/-- An expression is kept when one of its paths is not served, or when it is a single foreign text.
-/
theorem evaluate_eq_kept_iff : expression.evaluate scope = .kept ↔
    (∃ path, .path path ∈ expression ∧ scope.serves path.root = false) ∨ ∃ text, expression = [.foreign text] := by
  rw [← any_waits_iff]
  by_cases waits : expression.any (Alternative.waits scope) = true
  · simp [Expression.evaluate, waits]
  · rw [Expression.evaluate.eq_def, if_neg waits, or_iff_right waits]
    split
    · simp
    · simp
    · simp
    · rename_i path
      cases scope.lookup path <;> simp
    · rename_i notForeign _
      simp only [reduceCtorEq, false_iff, not_exists]
      exact notForeign

/-- A hole stays exactly if it is not to be filled. -/
theorem fill_eq_kept_iff : fill scope source = .kept ↔ IsUnfillable scope source := by
  constructor
  · intro kept
    rw [fill] at kept
    split at kept
    · rename_i expression read
      rcases evaluate_eq_kept_iff.mp kept with ⟨path, mentioned, refused⟩ | ⟨text, rfl⟩
      · exact .unserved expression path read mentioned refused
      · exact .foreign text read
    · rename_i error read
      exact .unreadable error read
  · intro unfillable
    rw [fill]
    cases unfillable with
    | unreadable error read => rw [read]
    | foreign text read =>
      rw [read]
      exact evaluate_eq_kept_iff.mpr (.inr ⟨text, rfl⟩)
    | unserved expression path read mentioned refused =>
      rw [read]
      exact evaluate_eq_kept_iff.mpr (.inl ⟨path, mentioned, refused⟩)

/-- Whether a scope cannot fill a hole can be decided. -/
instance : Decidable (IsUnfillable scope source) :=
  decidable_of_iff (isDeferred scope source = true) (isDeferred_iff.trans fill_eq_kept_iff)

/-! ## Texts -/

variable {text : String}

/-- The holes of a text are those that the scanner finds. -/
theorem mem_holesOf : source ∈ holesOf text ↔ .hole source ∈ parse text.toList := by
  rw [holesOf, List.mem_filterMap]
  constructor
  · rintro ⟨segment, among, found⟩
    cases segment with
    | literal => cases found
    | hole => cases found; exact among
  · intro among
    exact ⟨_, among, rfl⟩

/-- A text is resolved to itself if all its holes stay. -/
theorem resolveText_eq_self (kept : ∀ source ∈ holesOf text, fill scope source = .kept) :
    resolveText scope text = .text text := by
  by_cases single : ∃ source, parse text.toList = [.hole source]
  · obtain ⟨source, single⟩ := single
    have stays := kept source (mem_holesOf.mpr (by simp [single]))
    rw [resolveText_of_hole single, stays]
    rfl
  · rw [not_exists] at single
    have same : ∀ segment ∈ parse text.toList, segment.resolved scope = segment.text := by
      intro segment among
      cases segment with
      | literal => rfl
      | hole source => simp only [Segment.resolved, kept source (mem_holesOf.mpr among)]
    rw [resolveText_of_not_hole single, List.flatMap_congr same, (parse_isFaithful _).texts, String.ofList_toList]

/-- Every opening in the text is that of a blank hole, or no brace stands behind it. -/
def IsHoleless (text : String) : Prop :=
  ∀ before behind, text.toList = before ++ opening ++ behind → ClosesBlank behind ∨ '}' ∉ behind

/-- Nothing but blanks before a brace makes a blank hole. -/
theorem closeHole_blank {blanks : List Char} (blank : ∀ c ∈ blanks, isBlank c = true) (rest : List Char) :
    closeHole (blanks ++ '}' :: rest) = some (blanks, rest) := by
  have passed : Passes braceScan intoSource none blanks none :=
    Passes.of_forall fun c member => braceScan_passes_of_not_sign (not_sign_of_isBlank (blank c member))
  rw [closeHole, braceScan_closes passed, Option.some_or]

/-- No hole that is scanned has blanks alone before its first brace. -/
theorem not_closesBlank_of_mem (among : .hole source ∈ parse text.toList) (rest : List Char) :
    ¬ ClosesBlank (source ++ '}' :: rest) := by
  have ends := closeHole_of_mem_scan [] text.toList source among
  obtain ⟨c, member, notBlank⟩ := substantial_of_mem_scan [] text.toList source among
  rintro ⟨blanks, more, blank, eq⟩
  have notAll : source ≠ blanks := by
    rintro rfl
    rw [blank c member] at notBlank
    cases notBlank
  rcases List.append_eq_append_iff.mp eq with ⟨inside, rfl, -⟩ | ⟨inside, rfl, behind⟩
  · rw [blank c (List.mem_append_left _ member)] at notBlank
    cases notBlank
  · cases inside with
    | nil => exact notAll (List.append_nil _)
    | cons first inside =>
      -- the hole would have ended at the brace behind the blanks
      cases behind
      rw [List.append_assoc, List.cons_append, closeHole_blank blank] at ends
      simp at ends

/-- The scanner finds no hole just when the text has none that closes on more than blanks. -/
theorem holesOf_eq_nil_iff : holesOf text = [] ↔ IsHoleless text := by
  have faithful := parse_isFaithful text.toList
  rw [List.eq_nil_iff_forall_not_mem]
  simp only [mem_holesOf]
  constructor
  · intro none before behind occurs
    have literals : ∀ segment ∈ parse text.toList, segment.IsLiteral := by
      intro segment among
      cases segment with
      | literal => trivial
      | hole source => exact absurd among (none source)
    -- literal texts do not stand side by side, so there is one at most
    rcases segments : parse text.toList with _ | ⟨first, _ | ⟨second, rest⟩⟩
    · have empty := faithful.texts
      rw [segments] at empty
      rw [← empty] at occurs
      simp [opening] at occurs
    · cases first with
      | hole source => exact absurd (by simp [segments]) (none source)
      | literal literal =>
        have same : literal = text.toList := by simpa [segments, Segment.text] using faithful.texts
        simpa using faithful.openings [] literal [] segments before behind (same.trans occurs)
    · have apart := faithful.apart
      rw [segments] at apart literals
      simp [literals] at apart
  · intro holeless source among
    obtain ⟨front, back, whole⟩ := List.append_of_mem among
    have texts := faithful.texts
    rw [whole] at texts
    have occurs : text.toList = front.flatMap Segment.text ++ opening ++
        (source ++ '}' :: back.flatMap Segment.text) := by
      rw [← texts]
      simp [Segment.text]
    rcases holeless _ _ occurs with closes | absent
    · exact not_closesBlank_of_mem among _ closes
    · exact absent (by simp)

end Template

/-! ## Values -/

namespace Value

variable {scope : Scope}

/-- Resolving the fields resolves their values and keeps their names. -/
theorem resolveFields_eq_mapValues (scope : Scope) (fields : List (String × Value)) :
    resolveFields scope fields = Table.mapValues (resolve scope) fields := by
  induction fields with
  | nil => rfl
  | cons field rest ih => rw [resolveFields, ih, Table.mapValues, Table.mapValues, List.map_cons]

mutual

/-- A value all of whose texts are kept resolves to itself: by induction on the value. -/
theorem resolve_eq_self (value : Value) (kept : ∀ text ∈ value.texts, Template.resolveText scope text = .text text) :
    value.resolve scope = value := by
  cases value with
  | text text => exact kept text (List.mem_singleton.mpr rfl)
  | list items => rw [resolve, resolveItems_eq_self items kept]
  | record fields => rw [resolve, resolveFields_eq_self fields kept]
  | _ => rfl

/-- The same of the items of a list. -/
theorem resolveItems_eq_self (items : List Value)
    (kept : ∀ text ∈ textsOfItems items, Template.resolveText scope text = .text text) :
    resolveItems scope items = items := by
  cases items with
  | nil => rfl
  | cons item rest =>
    rw [textsOfItems, List.forall_mem_append] at kept
    rw [resolveItems, resolve_eq_self item kept.1, resolveItems_eq_self rest kept.2]

/-- The same of the fields of a record. -/
theorem resolveFields_eq_self (fields : List (String × Value))
    (kept : ∀ text ∈ textsOfFields fields, Template.resolveText scope text = .text text) :
    resolveFields scope fields = fields := by
  cases fields with
  | nil => rfl
  | cons field rest =>
    obtain ⟨name, value⟩ := field
    rw [textsOfFields, List.forall_mem_append] at kept
    rw [resolveFields, resolve_eq_self value kept.1, resolveFields_eq_self rest kept.2]

end

/-- Resolving leaves alone what it cannot fill. A value is resolved to itself in a scope that fills none of its
holes; a text whose openings are those of blank holes, or have no brace behind them, in every scope; of a record
the names stay, and only what stands under them is resolved; and what is neither text nor holds any stays. -/
theorem resolve_sparesUnfillable (scope : Scope) :
    (∀ value : Value, (∀ source ∈ value.holes, Template.IsUnfillable scope source) → value.resolve scope = value) ∧
    (∀ text : String, Template.IsHoleless text → (Value.text text).resolve scope = .text text) ∧
    (∀ fields : Fields, (Value.record fields).resolve scope = .record (Table.mapValues (resolve scope) fields) ∧
      Table.names (Table.mapValues (resolve scope) fields) = Table.names fields) ∧
    Value.null.resolve scope = .null ∧ (∀ b, (Value.flag b).resolve scope = .flag b) ∧
    ∀ n, (Value.number n).resolve scope = .number n := by
  refine ⟨?_, ?_, ?_, rfl, fun _ => rfl, fun _ => rfl⟩
  · intro value unfillable
    apply resolve_eq_self
    intro text among
    apply Template.resolveText_eq_self
    intro source hole
    exact Template.fill_eq_kept_iff.mpr (unfillable source (List.mem_flatMap.mpr ⟨text, among, hole⟩))
  · intro text holeless
    apply Template.resolveText_eq_self
    simp [Template.holesOf_eq_nil_iff.mpr holeless]
  · intro fields
    refine ⟨by rw [resolve, resolveFields_eq_mapValues], ?_⟩
    simp [Table.names, Table.mapValues]

/-- Holes that a run cannot fill: one waits for a record, one is foreign, one has an open quote, one an empty
segment; and two openings that begin no hole. A field is named like a hole. -/
def unfillableTrial : Value :=
  .record [("$\x7bvars.count\x7d", .text "Dear $\x7bitem.name || 'you'\x7d, $\x7b \x7d $\x7b2 + 2\x7d"),
    ("rest", .list [.text "$\x7b'open\x7d", .text "$\x7bvars..x\x7d $\x7b", .count 3])]

/-- The run resolves them to themselves. -/
theorem resolve_sparesUnfillable_trial :
    let scope := Context.stagedTrial.scope
    unfillableTrial.holes =
        ["item.name || 'you'".toList, "2 + 2".toList, "'open".toList, "vars..x".toList] ∧
      (∀ source ∈ unfillableTrial.holes, Template.IsUnfillable scope source) ∧
      unfillableTrial.resolve scope = unfillableTrial := by
  intro scope
  have unfillable : ∀ source ∈ unfillableTrial.holes, Template.IsUnfillable scope source := by decide +kernel
  exact ⟨by decide +kernel, unfillable, (resolve_sparesUnfillable scope).1 unfillableTrial unfillable⟩

end Value

end Stepwise
