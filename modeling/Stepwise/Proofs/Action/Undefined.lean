import Stepwise.Proofs.Action.Transforming

/-!
# Sources that lead nowhere

A source may be the path to something that is not there: a collection that was never set, or one that was
released. A source that leads nowhere stands for its own text, and three actions make three things of a text.
A deduplication has no records to keep, a filter refuses what is no list, and a transformation takes the text
for its one record. So the first two bring no record out of nothing, and the last one does unless its other
parameters cannot be read or ask for no record at all.
-/

set_option autoImplicit false

namespace Stepwise

/-- A text is a path, and there is nothing at its end. -/
def Context.LeadsNowhere (ctx : Context) (text : String) : Prop :=
  ∃ path, Path.parse text.toList = .ok path ∧ ctx.lookup path = none

namespace Context.LeadsNowhere

variable {ctx : Context} {text : String}

/-- A path that leads nowhere refers to nothing. -/
theorem reference?_eq_none (nowhere : ctx.LeadsNowhere text) : ctx.reference? text = none := by
  obtain ⟨path, read, undefined⟩ := nowhere
  simp [reference?, read, undefined]

/-- It is more than the empty text, which is no path. -/
theorem ne_empty (nowhere : ctx.LeadsNowhere text) : text ≠ "" := by
  rintro rfl
  obtain ⟨path, read, -⟩ := nowhere
  cases read

end Context.LeadsNowhere

/-- Every path into a collection leads nowhere once there is no collection of that name. -/
theorem Context.lookup_of_no_collection {ctx : Context} {name : String}
    (absent : Table.get? ctx.collections name = none) {path : Path} (root : path.root = .collections)
    (below : path.segments.head? = some name) : ctx.lookup path = none := by
  obtain ⟨rest, segments_eq⟩ := List.head?_eq_some_iff.mp below
  rw [lookup, root, segments_eq]
  simp [Collections.follow?, absent]

namespace Action

/-- An action brings no record: it fails, or it answers with no records. -/
def BringsNothing (answer : Except ActionError Value) : Prop := ∀ value, answer = .ok value → value = .list []

/-- The other parameters of a transformation can be read, and let it take a record. -/
def TakesRecord (fields : Fields) : Prop :=
  let params : Params := ⟨"transform_data", fields⟩
  ∃ limit rules, params.count? "slice_limit" = .ok limit ∧ limit ≠ some 0 ∧ params.record? "transforms" = .ok rules

section

variable {fields : Fields} {ctx : Context} {text : String}

/-- So the source it is given as is its own text. -/
theorem sourceOf_of_nowhere (nowhere : ctx.LeadsNowhere text) : sourceOf ctx (.text text) = .text text := by
  rw [sourceOf, nowhere.reference?_eq_none, Option.getD_none]

/-- So its records are one, that text. -/
theorem recordsOf_of_nowhere (nowhere : ctx.LeadsNowhere text) :
    Buffers.recordsOf (sourceOf ctx (.text text)) = [.text text] := by
  rw [sourceOf_of_nowhere nowhere]
  rfl

/-- A text that is more than the empty one counts as given, whatever action asks for it. -/
theorem required_of_nowhere (nowhere : ctx.LeadsNowhere text)
    (given : Table.get? fields "source" = some (.text text)) (action : String) :
    (⟨action, fields⟩ : Params).required "source" = .ok (.text text) := by
  have filled : text.isEmpty = false := by simpa using nowhere.ne_empty
  simp [Params.required, Params.get?, given, filled]

/-- A deduplication finds no list there, and answers with none. -/
theorem dedupCollection_of_nowhere (nowhere : ctx.LeadsNowhere text)
    (given : Table.get? fields "source" = some (.text text)) : (dedupCollection fields ctx).1 = .ok (.list []) := by
  simp only [dedupCollection, checked, required_of_nowhere nowhere given, sourceOf_of_nowhere nowhere]
  split
  · rfl
  · rfl

/-- A filter finds no list there, and fails. -/
theorem filterCollection_of_nowhere (nowhere : ctx.LeadsNowhere text)
    (given : Table.get? fields "source" = some (.text text)) :
    (filterCollection fields ctx).1 = .error (.invalidParam "filter_collection" "source" .notList) := by
  simp only [filterCollection, checked, required_of_nowhere nowhere given, sourceOf_of_nowhere nowhere]

/-- No rule changes a text, so whether it comes out is a matter of the limit. -/
theorem transformedRecords_text (limit : Option Nat) (rules : Option Fields) :
    transformedRecords ctx limit rules [.text text] = if limit = some 0 then [] else [.text text] := by
  rcases limit with _ | _ | n
  · rfl
  · rfl
  · simp [transformedRecords, transformRecord]

/-- So `transform_data` transforms one record, the text of the reference, where it should have had
none. -/
theorem transformData_of_nowhere (nowhere : ctx.LeadsNowhere text)
    (given : Table.get? fields "source" = some (.text text)) {value : Value} :
    let params : Params := ⟨"transform_data", fields⟩
    (transformData fields ctx).1 = .ok value ↔ ∃ limit rules, params.count? "slice_limit" = .ok limit ∧
      params.record? "transforms" = .ok rules ∧ value = .list (if limit = some 0 then [] else [.text text]) := by
  refine transformData_eq_ok_iff.trans ?_
  constructor
  · rintro ⟨source, limit, rules, required, limited, ruled, rfl⟩
    rw [required_of_nowhere nowhere given] at required
    cases required
    refine ⟨limit, rules, limited, ruled, ?_⟩
    rw [recordsOf_of_nowhere nowhere, transformedRecords_text]
  · rintro ⟨limit, rules, limited, ruled, rfl⟩
    refine ⟨.text text, limit, rules, required_of_nowhere nowhere given _, limited, ruled, ?_⟩
    rw [recordsOf_of_nowhere nowhere, transformedRecords_text]

/-- When the rules leave a text as it is and the limit lets it through, that text is the whole
answer. -/
theorem transformData_of_takesRecord (nowhere : ctx.LeadsNowhere text)
    (given : Table.get? fields "source" = some (.text text)) (takes : TakesRecord fields) :
    (transformData fields ctx).1 = .ok (.list [.text text]) := by
  obtain ⟨limit, rules, limited, some_asked, ruled⟩ := takes
  exact (transformData_of_nowhere nowhere given).mpr ⟨limit, rules, limited, ruled, by rw [if_neg some_asked]⟩

/-- From a source that leads nowhere a deduplication and a filter bring no record, whatever their other
parameters are. A transformation brings none exactly if its other parameters cannot be read or ask for none;
otherwise it brings one, the text of the source. -/
theorem bringsNothing_of_nowhere (nowhere : ctx.LeadsNowhere text)
    (given : Table.get? fields "source" = some (.text text)) :
    BringsNothing (dedupCollection fields ctx).1 ∧ BringsNothing (filterCollection fields ctx).1 ∧
      (BringsNothing (transformData fields ctx).1 ↔ ¬ TakesRecord fields) ∧
      (TakesRecord fields → (transformData fields ctx).1 = .ok (.list [.text text])) := by
  refine ⟨?deduplication, ?filter, ⟨fun nothing takes => ?_, fun takes_none value answered => ?_⟩,
    transformData_of_takesRecord nowhere given⟩
  case deduplication =>
    intro value answered
    rw [dedupCollection_of_nowhere nowhere given] at answered
    cases answered
    rfl
  case filter =>
    intro value answered
    rw [filterCollection_of_nowhere nowhere given] at answered
    cases answered
  · cases nothing _ (transformData_of_takesRecord nowhere given takes)
  · obtain ⟨limit, rules, limited, ruled, rfl⟩ := (transformData_of_nowhere nowhere given).mp answered
    by_cases none_asked : limit = some 0
    · rw [if_pos none_asked]
    · exact absurd ⟨limit, rules, limited, none_asked, ruled⟩ takes_none

end

/-! ## A collection that was released -/

/-- A run that has released its only collection. -/
def releasedTrial : Context :=
  (releaseCollection [("name", .text "leads")]
    { Context.start [] [] ⟨0, none, fun _ => .null, fun _ => .error "", (0, 0), [], []⟩ with
      collections := [("leads", [.null])] }).2

/-- A collection that was released leads nowhere. -/
theorem releasedTrial_leadsNowhere : releasedTrial.LeadsNowhere "collections.leads" := by
  have absent : Table.get? releasedTrial.collections "leads" = none := rfl
  exact ⟨⟨.collections, ["leads"], List.cons_ne_nil _ _⟩, by decide +kernel,
    Context.lookup_of_no_collection absent rfl rfl⟩

/-- The text that named the collection comes out as a record. -/
theorem transformData_of_released :
    let fields : Fields := [("source", .text "collections.leads")]
    releasedTrial.LeadsNowhere "collections.leads" ∧
      (transformData fields releasedTrial).1 = .ok (.list [.text "collections.leads"]) ∧
      ¬ BringsNothing (transformData fields releasedTrial).1 := by
  intro fields
  have answered : (transformData fields releasedTrial).1 = .ok (.list [.text "collections.leads"]) :=
    transformData_of_takesRecord releasedTrial_leadsNowhere rfl ⟨none, none, rfl, nofun, rfl⟩
  refine ⟨releasedTrial_leadsNowhere, answered, fun nothing => ?_⟩
  cases nothing _ answered

/-- A transformation that asks for no record brings none, and a deduplication brings none in any case. -/
theorem bringsNothing_of_nowhere_trial :
    let fields : Fields := [("slice_limit", .count 0), ("source", .text "collections.leads")]
    releasedTrial.LeadsNowhere "collections.leads" ∧
      Table.get? fields "source" = some (.text "collections.leads") ∧ ¬ TakesRecord fields ∧
      BringsNothing (transformData fields releasedTrial).1 ∧ BringsNothing (dedupCollection fields releasedTrial).1 := by
  intro fields
  have given : Table.get? fields "source" = some (.text "collections.leads") := rfl
  have takes_none : ¬ TakesRecord fields := by
    rintro ⟨limit, rules, limited, some_asked, -⟩
    cases limited
    exact some_asked rfl
  have nothing := bringsNothing_of_nowhere releasedTrial_leadsNowhere given
  exact ⟨releasedTrial_leadsNowhere, given, takes_none, nothing.2.2.1.mpr takes_none, nothing.1⟩

end Action

end Stepwise
