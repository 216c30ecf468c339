import Mathlib.Data.List.Forall2
import Stepwise.Document.Loading
import Stepwise.Proofs.Document.Entries

/-!
# Playbooks are read back from their documents

A playbook whose data a document can carry without loss is read back from its JSON text, in whatever order
the fields of the playbook and of its steps stand there.
-/

set_option autoImplicit false

namespace Stepwise

/-! ## Steps -/

/-- An optional text is read back as it was written, null standing for none. -/
theorem readOptional_text (text : Option String) :
    (Node.ofValue (.optionalText text)).optional Node.text = .ok text := by
  cases text <;> rfl

/-- An optional text is written without a number and without a level of its own. -/
theorem scalar_optionalText (text : Option String) :
    (Value.optionalText text).isExact = true ∧ (Value.optionalText text).depth = 0 := by
  cases text <;> exact ⟨rfl, rfl⟩

namespace Step

/-- The fields of a step, in the order of the structure. -/
def entries (step : Step) : List (String × Value) :=
  [("name", .optionalText step.name), ("action", .optionalText step.action),
    ("params", .record step.params), ("when", (step.guard.map StepGuard.toValue).getD .null),
    ("register", .optionalText step.register), ("track_result", .flag step.trackResult),
    ("ignore_errors", .flag step.ignoreErrors)]

/-- A value that lists the fields of a step in any order. -/
def IsDocument (step : Step) (value : Value) : Prop := value.Lists step.entries

/-- Takes one field over from another step. -/
def copyField (source step : Step) (name : String) : Step :=
  match name with
  | "name" => { step with name := source.name }
  | "action" => { step with action := source.action }
  | "params" => { step with params := source.params }
  | "when" => { step with guard := source.guard }
  | "register" => { step with register := source.register }
  | "track_result" => { step with trackResult := source.trackResult }
  | "ignore_errors" => { step with ignoreErrors := source.ignoreErrors }
  | _ => step

/-- A step that has taken over all the fields is the step they came from. -/
theorem foldl_copyField (source step : Step) : fieldNames.foldl source.copyField step = source := by
  simp only [fieldNames, List.foldl_cons, List.foldl_nil, copyField]

/-- The order in which two fields are taken over does not matter. -/
theorem copyField_comm (source step : Step) (a b : String) :
    source.copyField (source.copyField step a) b = source.copyField (source.copyField step b) a := by
  unfold copyField
  split <;> split <;> rfl

/-- Reading an entry that a step was written with takes that field over from the step. -/
theorem readField_entries {source : Step} (plain : (Value.record source.params).isPlain = true) :
    ∀ entry ∈ source.entries, ∀ step,
      readField step entry.1 (Node.ofValue entry.2) = .ok (source.copyField step entry.1) := by
  have params : readParams (Node.ofValue (.record source.params)) = .ok source.params := by
    have value := Node.value?_ofValue _ (Bool.and_eq_true_iff.mp plain).2
    simp only [readParams, Node.any, value]
    rfl
  have guard : (Node.ofValue ((source.guard.map StepGuard.toValue).getD .null)).optional readGuard =
      .ok source.guard := by
    rcases source.guard with _ | _ | _ <;> rfl
  intro entry member step
  simp only [entries, List.mem_cons, List.not_mem_nil, or_false] at member
  rcases member with rfl | rfl | rfl | rfl | rfl | rfl | rfl
  · simp only [readField, readOptional_text]
    rfl
  · simp only [readField, readOptional_text]
    rfl
  · simp only [readField, params]
    rfl
  · simp only [readField, guard]
    rfl
  · simp only [readField, readOptional_text]
    rfl
  · cases flag : source.trackResult <;> simp only [copyField, flag] <;> rfl
  · cases flag : source.ignoreErrors <;> simp only [copyField, flag] <;> rfl

/-- A step is read back from its entries in any order. -/
theorem ofNode_ofValue {step : Step} {value : Value} (lists : step.IsDocument value)
    (plain : (Value.record step.params).isPlain = true) : ofNode (Node.ofValue value) = .ok step := by
  obtain ⟨given, _, read⟩ := Node.structured_ofValue "Step" fieldNames lists rfl (by decide)
    (copyField_comm step) (readField_entries plain) blank
  rw [ofNode, read]
  exact congrArg Except.ok (step.foldl_copyField blank)

/-- Each entry of a step is its parameters or else a scalar without a binary64 number. -/
theorem mem_entries {step : Step} {entry : String × Value} (member : entry ∈ step.entries) :
    entry.2 = .record step.params ∨ entry.2.isExact = true ∧ entry.2.depth = 0 := by
  simp only [entries, List.mem_cons, List.not_mem_nil, or_false] at member
  rcases member with rfl | rfl | rfl | rfl | rfl | rfl | rfl
  · exact .inr (scalar_optionalText _)
  · exact .inr (scalar_optionalText _)
  · exact .inl rfl
  · rcases step.guard with _ | _ | _ <;> exact .inr ⟨rfl, rfl⟩
  · exact .inr (scalar_optionalText _)
  · exact .inr ⟨rfl, rfl⟩
  · exact .inr ⟨rfl, rfl⟩

/-- So a written step is one level deeper than its parameters and as free of binary64 numbers. -/
theorem isExact_and_depth_le {step : Step} {value : Value} (bound : Nat) (lists : step.IsDocument value)
    (exact : (Value.record step.params).isExact = true)
    (shallow : (Value.record step.params).depth ≤ bound) :
    value.isExact = true ∧ value.depth ≤ bound + 1 := by
  refine ⟨lists.isExact fun entry member => ?_, lists.depth_le fun entry member => ?_⟩
  · rcases mem_entries member with same | ⟨exact, _⟩
    · rwa [same]
    · exact exact
  · -- the parameters nest as deep as the bound says, and the other entries are scalars
    rcases mem_entries member with same | ⟨_, flat⟩
    · rwa [same]
    · omega

/-- The fields of a step in order. -/
def document (step : Step) : Value := .record step.entries

/-- The value a step is written as lists the step's fields. -/
theorem isDocument_toValue (step : Step) : step.IsDocument step.toValue :=
  ⟨_, rfl, Table.ofList_perm (show fieldNames.Nodup by decide)⟩

end Step

/-! ## Playbooks -/

namespace Playbook

/-- The fields of a playbook, in the order of the structure, with the given values of its steps. -/
def entries (playbook : Playbook) (steps : List Value) : List (String × Value) :=
  [("name", .optionalText playbook.name), ("description", .optionalText playbook.description),
    ("config", .record playbook.config), ("steps", .list steps)]

/-- A value that lists the fields of a playbook and of each of its steps, all in any order. -/
def IsDocument (playbook : Playbook) (value : Value) : Prop :=
  ∃ steps, List.Forall₂ Step.IsDocument playbook.steps steps ∧
    value.Lists (playbook.entries steps)

/-- A playbook with a step, whose data are plain and nest no deeper than a document is read. -/
structure IsPortable (playbook : Playbook) : Prop where
  steps : playbook.steps ≠ []
  config : (Value.record playbook.config).isPlain = true
  configDepth : (Value.record playbook.config).depth + 1 ≤ Json.depthLimit
  params : ∀ step ∈ playbook.steps, (Value.record step.params).isPlain = true
  paramsDepth : ∀ step ∈ playbook.steps, (Value.record step.params).depth + 3 ≤ Json.depthLimit

/-- Takes one field over from another playbook. -/
def copyField (source playbook : Playbook) (name : String) : Playbook :=
  match name with
  | "name" => { playbook with name := source.name }
  | "description" => { playbook with description := source.description }
  | "config" => { playbook with config := source.config }
  | "steps" => { playbook with steps := source.steps }
  | _ => playbook

/-- The order in which two fields are taken over does not matter. -/
theorem copyField_comm (source playbook : Playbook) (a b : String) :
    source.copyField (source.copyField playbook a) b = source.copyField (source.copyField playbook b) a := by
  unfold copyField
  split <;> split <;> rfl

/-- A list of steps is read back from its documents, step by step. -/
theorem mapM_ofNode {steps : List Step} {values : List Value}
    (lists : List.Forall₂ Step.IsDocument steps values)
    (plain : ∀ step ∈ steps, (Value.record step.params).isPlain = true) :
    (Node.ofItems values).mapM Step.ofNode = .ok steps := by
  induction lists with
  | nil => rfl
  | cons here _ ih =>
    simp only [Node.ofItems, List.mapM_cons, Step.ofNode_ofValue here (plain _ List.mem_cons_self),
      ih fun step member => plain step (List.mem_cons_of_mem _ member)]
    rfl

/-- Each of the documents is that of one of the steps. -/
theorem exists_step_of_mem {steps : List Step} {values : List Value}
    (lists : List.Forall₂ Step.IsDocument steps values)
    {value : Value} (member : value ∈ values) : ∃ step ∈ steps, step.IsDocument value := by
  induction lists with
  | nil => cases member
  | cons here _ ih =>
    rcases List.mem_cons.mp member with rfl | later
    · exact ⟨_, List.mem_cons_self, here⟩
    · obtain ⟨step, stepMember, fields⟩ := ih later
      exact ⟨step, List.mem_cons_of_mem _ stepMember, fields⟩

/-- Reading an entry that a playbook was written with takes that field over from the playbook. -/
theorem readField_entries {source : Playbook} {steps : List Value} (portable : source.IsPortable)
    (lists : List.Forall₂ Step.IsDocument source.steps steps) :
    ∀ entry ∈ source.entries steps, ∀ playbook,
      readField playbook entry.1 (Node.ofValue entry.2) = .ok (source.copyField playbook entry.1) := by
  have config : (Node.ofValue (.record source.config)).fields = .ok source.config := by
    have both := Bool.and_eq_true_iff.mp (Bool.and_eq_true_iff.mp portable.config).2
    have sorted : (Table.names source.config).Pairwise (· < ·) := of_decide_eq_true both.1
    simp only [Node.ofValue, Node.fields, Node.entryValues?_ofFields source.config both.2,
      Table.ofList_eq_self sorted]
  have items : (Node.ofValue (.list steps)).items = .ok (Node.ofItems steps) := rfl
  intro entry member playbook
  simp only [entries, List.mem_cons, List.not_mem_nil, or_false] at member
  rcases member with rfl | rfl | rfl | rfl
  · simp only [readField, readOptional_text]
    rfl
  · simp only [readField, readOptional_text]
    rfl
  · simp only [readField, config]
    rfl
  · simp only [readField, items, bind, Except.bind, mapM_ofNode lists portable.params]
    rfl

/-- A playbook is read back from its entries in any order. -/
theorem ofNode_ofValue {playbook : Playbook} (portable : playbook.IsPortable) {value : Value}
    (document : playbook.IsDocument value) : ofNode (Node.ofValue value) = .ok playbook := by
  obtain ⟨steps, lists, fields⟩ := document
  obtain ⟨given, _, read⟩ := Node.structured_ofValue "Playbook" fieldNames fields rfl (by decide)
    (copyField_comm playbook) (readField_entries portable lists) blank
  rw [ofNode, read]
  rfl

/-- A document holds no real number and nests no deeper than is read. -/
theorem IsDocument.isReadable {playbook : Playbook} (portable : playbook.IsPortable) {value : Value}
    (document : playbook.IsDocument value) : value.isExact = true ∧ value.depth ≤ Json.depthLimit := by
  obtain ⟨steps, lists, fields⟩ := document
  have each : ∀ value ∈ steps, value.isExact = true ∧ value.depth ≤ Json.depthLimit - 2 := by
    intro value member
    obtain ⟨step, stepMember, fields⟩ := exists_step_of_mem lists member
    have shallow := portable.paramsDepth step stepMember
    have both := Step.isExact_and_depth_le (Json.depthLimit - 3) fields
      (Bool.and_eq_true_iff.mp (portable.params step stepMember)).1 (by omega)
    exact ⟨both.1, by omega⟩
  have shallow := portable.configDepth
  have entry : ∀ entry ∈ playbook.entries steps,
      entry.2.isExact = true ∧ entry.2.depth ≤ Json.depthLimit - 1 := by
    intro entry member
    simp only [entries, List.mem_cons, List.not_mem_nil, or_false] at member
    rcases member with rfl | rfl | rfl | rfl
    · have flat := scalar_optionalText playbook.name
      exact ⟨flat.1, Nat.le_trans (Nat.le_of_eq flat.2) (Nat.zero_le _)⟩
    · have flat := scalar_optionalText playbook.description
      exact ⟨flat.1, Nat.le_trans (Nat.le_of_eq flat.2) (Nat.zero_le _)⟩
    · exact ⟨(Bool.and_eq_true_iff.mp portable.config).1, Nat.le_sub_of_add_le shallow⟩
    · have items := Value.depthOfItems_le_iff.mpr fun value member => (each value member).2
      refine ⟨Value.areExact_iff.mpr fun value member => (each value member).1, ?_⟩
      rw [Value.depth]
      have limit : Json.depthLimit = 127 := rfl
      omega
  have nested := fields.depth_le fun here member => (entry here member).2
  exact ⟨fields.isExact fun here member => (entry here member).1, by omega⟩

/-- A playbook is read back from every document of it, in any layout. -/
theorem parse_write {playbook : Playbook} (portable : playbook.IsPortable) {value : Value}
    (document : playbook.IsDocument value) (layout : Json.Layout) :
    parse .json (String.ofList (layout.write 0 value)) = .ok playbook := by
  obtain ⟨exact, shallow⟩ := document.isReadable portable
  have steps : playbook.steps.isEmpty = false := by simpa using portable.steps
  simp only [parse, readText?, Json.read?_write layout exact shallow, ofNode_ofValue portable document, steps]
  rfl

/-- The fields of a playbook in order, and those of its steps. -/
def document (playbook : Playbook) : Value := .record (playbook.entries (playbook.steps.map Step.document))

/-- The document of a playbook lists its fields, and the fields of its steps. -/
theorem isDocument_document (playbook : Playbook) : playbook.IsDocument playbook.document :=
  ⟨_, List.forall₂_map_right_iff.mpr (List.forall₂_same.mpr fun step _ => Value.lists_record step.entries),
    Value.lists_record _⟩

/-- So does the value it is written as, where the fields are in the order of their names. -/
theorem isDocument_toValue (playbook : Playbook) : playbook.IsDocument playbook.toValue :=
  ⟨_, List.forall₂_map_right_iff.mpr (List.forall₂_same.mpr fun step _ => step.isDocument_toValue),
    _, rfl, Table.ofList_perm (show fieldNames.Nodup by decide)⟩

/-- A playbook is read back from its text: the compact and the wide one, with the fields in the order of the
structures and in the order of a table. -/
theorem parse_document (playbook : Playbook) (portable : playbook.IsPortable) :
    parse .json playbook.document.compact = .ok playbook ∧
      parse .json playbook.document.wide = .ok playbook ∧
      parse .json playbook.toValue.compact = .ok playbook ∧
      parse .json playbook.toValue.wide = .ok playbook := by
  have written {value : Value} (document : playbook.IsDocument value) :
      parse .json value.compact = .ok playbook ∧ parse .json value.wide = .ok playbook := by
    rw [Json.Layout.compact_eq, Json.Layout.wide_eq]
    exact ⟨parse_write portable document _, parse_write portable document _⟩
  obtain ⟨compact, wide⟩ := written playbook.isDocument_document
  exact ⟨compact, wide, written playbook.isDocument_toValue⟩

/-- A playbook with a configuration, and with steps that have a fixed guard, an expression and none. -/
def portableTrial : Playbook where
  name := some "na\"me\n"
  description := none
  config := [("depth", .list [.list [], .record []]), ("limit", .number (.whole (-7)))]
  steps :=
    [{ Step.make "first" "log" with
        params := [("message", .text "\\u00e9"), ("tries", .list [.null, .count 18446744073709551615])]
        guard := some (.fixed false)
        trackResult := true },
      { Step.blank with guard := some (.expression "true"), register := some "", ignoreErrors := true },
      Step.blank]

/-- The playbook is read back from all four of its texts: its document and its value, compact and wide. -/
theorem parse_document_trial : portableTrial.IsPortable ∧
    parse .json portableTrial.document.compact = .ok portableTrial ∧
      parse .json portableTrial.document.wide = .ok portableTrial ∧
      parse .json portableTrial.toValue.compact = .ok portableTrial ∧
      parse .json portableTrial.toValue.wide = .ok portableTrial := by
  have portable : portableTrial.IsPortable :=
    { steps := by simp [portableTrial]
      config := by decide
      configDepth := by decide
      params := by
        intro step member
        simp only [portableTrial, List.mem_cons, List.not_mem_nil, or_false] at member
        rcases member with rfl | rfl | rfl <;> decide
      paramsDepth := by
        intro step member
        simp only [portableTrial, List.mem_cons, List.not_mem_nil, or_false] at member
        rcases member with rfl | rfl | rfl <;> decide }
  exact ⟨portable, parse_document portableTrial portable⟩

end Playbook

end Stepwise
