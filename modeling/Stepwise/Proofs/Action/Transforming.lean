import Stepwise.Proofs.Action.Serviceless
import Stepwise.Proofs.Table

/-!
# Transformations of records

A transformation assigns fields in parallel. Each of its rules gives a value that is computed from the record
as it was, and no rule sees what another has assigned, so it makes no difference in which order they are
applied. `Gives` says what value a rule gives, one case for each kind of rule; a record of an unknown type is
no rule and leaves its field alone. Records are transformed one by one: what comes of a record does not depend
on the others.
-/

set_option autoImplicit false

namespace Stepwise.Action

/-! ## The value that a rule gives -/

/-- A rule is of the type of that name. -/
def HasType (rule : Fields) (type : String) : Prop := Table.get? rule "type" = some (.text type)

/-- The table of a rule holds a value that counts as true for the text of the field that the rule names. -/
def Finds (record : Value) (rule : Fields) (value : Value) : Prop :=
  ∃ source key mapping, Table.get? rule "source" = some (.text source) ∧ fieldOf? record source = some key ∧
    Table.get? rule "mapping" = some (.record mapping) ∧ Table.get? mapping key.render = some value ∧
    value.isTruthy = true

/-- The items of a field of a rule; none if it is no list. -/
def itemsOf (rule : Fields) (name : String) : List Value := ((Table.get? rule name).bind Value.asList?).getD []

/-- The text of a field of a rule; empty if it is no text. -/
def textOf (rule : Fields) (name : String) : String := ((Table.get? rule name).bind Value.asText?).getD ""

/-- The value that a rule gives for a record, which is also seen through the scope. -/
inductive Gives (scope : Scope) (record : Value) : Value → Value → Prop where
  /-- A text is a template. -/
  | template (text : String) : Gives scope record (.text text) (Template.resolveText scope text)
  /-- What is neither a text nor a record is given as it is. -/
  | constant (value : Value) (no_text : value.asText? = none) (no_record : value.asFields? = none) :
      Gives scope record value value
  /-- A table gives what it holds. -/
  | mapped (rule : Fields) (value : Value) (type : HasType rule "map") (finds : Finds record rule value) :
      Gives scope record (.record rule) value
  /-- A table that holds nothing of use gives its default. -/
  | unmapped (rule : Fields) (type : HasType rule "map") (misses : ∀ value, ¬ Finds record rule value) :
      Gives scope record (.record rule) ((Table.get? rule "default").getD .null)
  /-- Values are filled in and joined. -/
  | joined (rule : Fields) (type : HasType rule "concat") :
      Gives scope record (.record rule) (.text ((textOf rule "separator").intercalate
        ((itemsOf rule "values").map fun item => (item.resolve scope).render)))

/-- A record that is of none of the types of rules. -/
def IsUnknown (rule : Value) : Prop :=
  ∃ fields, rule = .record fields ∧ ¬ HasType fields "map" ∧ ¬ HasType fields "concat"

section

variable {scope : Scope} {record : Value}

/-- A field is found only in a record, under its name. -/
theorem fieldOf?_eq_some_iff {value found : Value} {name : String} :
    fieldOf? value name = some found ↔ ∃ fields, value = .record fields ∧ Table.get? fields name = some found := by
  cases value <;> simp [fieldOf?, Value.asFields?]

/-- Only a text reads as a text. -/
theorem asText?_eq_some_iff {value : Value} {text : String} : value.asText? = some text ↔ value = .text text := by
  cases value <;> simp [Value.asText?]

/-- What is found in a table, whatever it counts as. -/
theorem finds_iff {rule : Fields} {value : Value} : Finds record rule value ↔
    ((((Table.get? rule "source").bind Value.asText?).bind (fieldOf? record)).bind fun key =>
      (Table.get? rule "mapping").bind fun mapping => fieldOf? mapping key.render).filter Value.isTruthy =
        some value := by
  simp only [Finds, Option.filter_eq_some_iff, Option.bind_eq_some_iff, asText?_eq_some_iff]
  constructor
  · rintro ⟨source, key, mapping, sourced, read, listed, found, counts⟩
    exact ⟨⟨key, ⟨source, ⟨_, sourced, rfl⟩, read⟩, _, listed, fieldOf?_eq_some_iff.mpr ⟨mapping, rfl, found⟩⟩, counts⟩
  · rintro ⟨⟨key, ⟨source, ⟨_, sourced, rfl⟩, read⟩, _, listed, found⟩, counts⟩
    obtain ⟨mapping, rfl, found⟩ := fieldOf?_eq_some_iff.mp found
    exact ⟨source, key, mapping, sourced, read, listed, found, counts⟩

/-- A mapping whose source field is there takes the value it finds. -/
theorem mappedField_eq_of_finds {rule : Fields} {value : Value} (finds : Finds record rule value) :
    mappedField record rule = value := by
  rw [mappedField, finds_iff.mp finds, Option.getD_some]

/-- A mapping whose source field is not there takes its default, or null without one. -/
theorem mappedField_eq_of_misses {rule : Fields} (misses : ∀ value, ¬ Finds record rule value) :
    mappedField record rule = (Table.get? rule "default").getD .null := by
  have nothing := Option.eq_none_iff_forall_ne_some.mpr fun value found => misses value (finds_iff.mpr found)
  rw [mappedField, nothing, Option.getD_none]

/-- A rule of type `map` computes a mapped field. -/
theorem transformed?_of_map {rule : Fields} (type : HasType rule "map") :
    transformed? scope record (.record rule) = some (mappedField record rule) := by
  unfold HasType at type
  simp only [transformed?, type]

/-- A rule of type `concat` computes a joined field. -/
theorem transformed?_of_concat {rule : Fields} (type : HasType rule "concat") :
    transformed? scope record (.record rule) = some (joinedField scope rule) := by
  unfold HasType at type
  simp only [transformed?, type]

/-- A rule of any other type computes nothing. -/
theorem transformed?_of_unknown {rule : Fields} (unmapped : ¬ HasType rule "map")
    (unjoined : ¬ HasType rule "concat") : transformed? scope record (.record rule) = none := by
  simp only [transformed?]
  split
  · exact absurd ‹_› unmapped
  · exact absurd ‹_› unjoined
  · rfl

/-- What is computed for a rule is what it gives. -/
theorem gives_of_transformed? {rule value : Value} (computed : transformed? scope record rule = some value) :
    Gives scope record rule value := by
  cases rule with
  | text template =>
    cases computed
    exact .template template
  | record rule =>
    by_cases mapped : HasType rule "map"
    · rw [transformed?_of_map mapped] at computed
      cases computed
      by_cases finds : ∃ value, Finds record rule value
      · obtain ⟨value, found⟩ := finds
        rw [mappedField_eq_of_finds found]
        exact .mapped rule value mapped found
      · have misses : ∀ value, ¬ Finds record rule value := fun value found => finds ⟨value, found⟩
        rw [mappedField_eq_of_misses misses]
        exact .unmapped rule mapped misses
    · by_cases joined : HasType rule "concat"
      · rw [transformed?_of_concat joined] at computed
        cases computed
        exact .joined rule joined
      · rw [transformed?_of_unknown mapped joined] at computed
        cases computed
  | null | flag _ | number _ | list _ =>
    cases computed
    exact .constant _ rfl rfl

/-- What a rule gives is what is computed for it, so it gives one value. -/
theorem transformed?_of_gives {rule value : Value} (gives : Gives scope record rule value) :
    transformed? scope record rule = some value := by
  cases gives with
  | template text => rfl
  | constant _ no_text no_record =>
    cases rule with
    | text _ => cases no_text
    | record _ => cases no_record
    | null | flag _ | number _ | list _ => rfl
  | mapped rule _ type finds => rw [transformed?_of_map type, mappedField_eq_of_finds finds]
  | unmapped rule type misses => rw [transformed?_of_map type, mappedField_eq_of_misses misses]
  | joined rule type => exact transformed?_of_concat type

/-- A rule gives nothing exactly if its type is unknown. -/
theorem transformed?_eq_none_iff {rule : Value} : transformed? scope record rule = none ↔ IsUnknown rule := by
  constructor
  · intro nothing
    cases rule with
    | record rule =>
      refine ⟨rule, rfl, fun mapped => ?_, fun joined => ?_⟩
      · rw [transformed?_of_map mapped] at nothing
        cases nothing
      · rw [transformed?_of_concat joined] at nothing
        cases nothing
    | null | text _ | flag _ | number _ | list _ => cases nothing
  · rintro ⟨rule, rfl, unmapped, unjoined⟩
    exact transformed?_of_unknown unmapped unjoined

end

/-! ## Fields that are assigned at once -/

/-- The fields that rules assign to a record, with their values. -/
def assignments (scope : Scope) (record : Value) (rules : Fields) : Fields :=
  rules.filterMap fun rule => (transformed? scope record rule.2).map fun value => (rule.1, value)

/-- Each rule is applied to the record as it was. -/
theorem transformRecord_record (ctx : Context) (rules fields : Fields) :
    transformRecord ctx rules (.record fields) =
      .record (fields.putAll (assignments (ctx.itemScope (.record fields)) (.record fields) rules)) := by
  simp only [transformRecord, Table.putAll, assignments, List.foldl_filterMap]
  congr 2
  funext done rule
  cases transformed? (ctx.itemScope (.record fields)) (.record fields) rule.2 with
  | none => rfl
  | some value => rfl

section

variable {scope : Scope} {record : Value} {rules : Fields}

/-- A rule that computes a value assigns it to the field of its name. -/
theorem assignments_cons_of_some {rule : String × Value} {value : Value}
    (computed : transformed? scope record rule.2 = some value) :
    assignments scope record (rule :: rules) = (rule.1, value) :: assignments scope record rules := by
  simp [assignments, computed]

/-- A rule that computes nothing assigns nothing. -/
theorem assignments_cons_of_none {rule : String × Value} (nothing : transformed? scope record rule.2 = none) :
    assignments scope record (rule :: rules) = assignments scope record rules := by
  simp [assignments, nothing]

/-- The fields that are assigned are among the names of the rules, in their order. -/
theorem names_assignments_sublist :
    (Table.names (assignments scope record rules)).Sublist (Table.names rules) := by
  induction rules with
  | nil => exact .slnil
  | cons rule rest ih =>
    cases computed : transformed? scope record rule.2 with
    | none =>
      rw [assignments_cons_of_none computed]
      exact ih.cons rule.1
    | some value =>
      rw [assignments_cons_of_some computed]
      exact ih.cons_cons rule.1

/-- What is assigned to a field is what its rule gives. -/
theorem get?_assignments (distinct : (Table.names rules).Nodup) (name : String) :
    Table.get? (assignments scope record rules) name =
      (Table.get? rules name).bind (transformed? scope record) := by
  induction rules with
  | nil => rfl
  | cons rule rest ih =>
    obtain ⟨unlisted, distinctRest⟩ := List.nodup_cons.mp distinct
    rw [Table.get?_cons]
    cases computed : transformed? scope record rule.2 with
    | none =>
      rw [assignments_cons_of_none computed, ih distinctRest]
      by_cases here : rule.1 = name
      · subst here
        rw [if_pos rfl, Option.bind_some, computed, Table.get?_eq_none unlisted, Option.bind_none]
      · rw [if_neg here]
    | some value =>
      rw [assignments_cons_of_some computed, Table.get?_cons, ih distinctRest]
      by_cases here : rule.1 = name
      · rw [if_pos here, if_pos here, Option.bind_some, computed]
      · rw [if_neg here, if_neg here]

end

/-- The fields that a record has after rules were applied, by the fields that it had. -/
structure AssignsInParallel (ctx : Context) (rules fields done : Fields) : Prop where
  /-- A field with a rule of a known type gets the one value that the rule gives for the record as it was. -/
  assigned : ∀ name rule, Table.get? rules name = some rule → ¬ IsUnknown rule →
    ∃ value, Table.get? done name = some value ∧
      ∀ other, Gives (ctx.itemScope (.record fields)) (.record fields) rule other ↔ other = value
  /-- Every other field stays as it was, or absent. -/
  kept : ∀ name, (∀ rule, Table.get? rules name = some rule → IsUnknown rule) →
    Table.get? done name = Table.get? fields name

/-- A record is transformed by all its rules at once, each reading the original record. -/
theorem transformRecord_assignsInParallel (ctx : Context) {rules : Fields} (distinct : (Table.names rules).Nodup)
    (fields : Fields) : ∃ done, transformRecord ctx rules (.record fields) = .record done ∧
      AssignsInParallel ctx rules fields done := by
  refine ⟨_, transformRecord_record ctx rules fields, ?_⟩
  generalize scope_eq : ctx.itemScope (.record fields) = scope
  have apart : (Table.names (assignments scope (.record fields) rules)).Nodup :=
    names_assignments_sublist.nodup distinct
  constructor
  case assigned =>
    intro name rule ruled known
    obtain ⟨value, computed⟩ : ∃ value, transformed? scope (.record fields) rule = some value :=
      Option.ne_none_iff_exists'.mp fun nothing => known (transformed?_eq_none_iff.mp nothing)
    refine ⟨value, ?_, fun other => ⟨fun gives => ?_, ?_⟩⟩
    · rw [Table.get?_putAll _ apart, get?_assignments distinct, ruled, Option.bind_some, computed, Option.some_or]
    · rw [scope_eq] at gives
      exact Option.some.inj ((transformed?_of_gives gives).symm.trans computed)
    · rintro rfl
      rw [scope_eq]
      exact gives_of_transformed? computed
  case kept =>
    intro name unruled
    have nothing : (Table.get? rules name).bind (transformed? scope (.record fields)) = none := by
      rw [Option.bind_eq_none_iff]
      exact fun rule ruled => transformed?_eq_none_iff.mpr (unruled rule ruled)
    rw [Table.get?_putAll _ apart, get?_assignments distinct, nothing, Option.none_or]

/-- Rules can be applied in any order. -/
theorem transformRecord_perm (ctx : Context) {rules reordered : Fields} (distinct : (Table.names rules).Nodup)
    (same : reordered.Perm rules) (record : Value) :
    transformRecord ctx reordered record = transformRecord ctx rules record := by
  cases record with
  | record fields =>
    rw [transformRecord_record, transformRecord_record]
    congr 1
    exact Table.putAll_perm fields (names_assignments_sublist.nodup distinct) (same.filterMap _)
  | null | flag _ | number _ | text _ | list _ => rfl

/-! ## Whole transformations -/

/-- The records that come out of a transformation. -/
def transformedRecords (ctx : Context) (limit : Option Nat) (rules : Option Fields) (records : List Value) :
    List Value :=
  ((limit.map records.take).getD records).map (transformRecord ctx (rules.getD []))

/-- Without rules a record stays as it is. -/
theorem transformRecord_nil (ctx : Context) (record : Value) : transformRecord ctx [] record = record := by
  cases record <;> rfl

/-- A transformation answers exactly if its parameters can be read. -/
theorem transformData_eq_ok_iff {fields : Fields} {ctx : Context} {value : Value} :
    let params : Params := ⟨"transform_data", fields⟩
    (transformData fields ctx).1 = .ok value ↔ ∃ source limit rules, params.required "source" = .ok source ∧
      params.count? "slice_limit" = .ok limit ∧ params.record? "transforms" = .ok rules ∧
      value = .list (transformedRecords ctx limit rules (Buffers.recordsOf (sourceOf ctx source))) := by
  intro params
  simp only [transformData, checked, bind, Except.bind, pure, Except.pure]
  cases params.required "source" with
  | error cause => simp
  | ok source =>
    cases params.count? "slice_limit" with
    | error cause => simp
    | ok limit =>
      cases params.record? "transforms" with
      | error cause => simp
      | ok rules =>
        have unruled : transformRecord ctx [] = id := funext (transformRecord_nil ctx)
        cases limit <;> cases rules <;>
          simp [transformedRecords, unruled, eq_comm]

/-- What comes out of a transformation with some rules, of which records. -/
structure TransformsRecordwise (ctx : Context) (rules : Fields) (limit : Option Nat)
    (records outputs : List Value) : Prop where
  /-- There are as many records as before, up to the limit. -/
  length_eq : outputs.length = (limit.map (min · records.length)).getD records.length
  /-- Each of them comes of the record in its place, whatever the others are. -/
  each : ∀ (i : Nat) output, outputs[i]? = some output →
    ∃ record, records[i]? = some record ∧ transformRecord ctx rules record = output
  /-- What is no record stays as it is. -/
  unshaped : ∀ value, value.asFields? = none → transformRecord ctx rules value = value
  /-- The fields of a record are assigned in parallel. -/
  shaped : ∀ fields, ∃ done, transformRecord ctx rules (.record fields) = .record done ∧
    AssignsInParallel ctx rules fields done
  /-- So the rules can be applied in any order. -/
  unordered : ∀ reordered, reordered.Perm rules → transformRecord ctx reordered = transformRecord ctx rules

/-- The records up to the limit are transformed each for itself, and the others are dropped. -/
theorem transformedRecords_recordwise (ctx : Context) (limit : Option Nat) {rules : Option Fields}
    (distinct : (Table.names (rules.getD [])).Nodup) (records : List Value) :
    TransformsRecordwise ctx (rules.getD []) limit records (transformedRecords ctx limit rules records) where
  length_eq := by cases limit <;> simp [transformedRecords]
  each i output found := by
    rw [transformedRecords, List.getElem?_map, Option.map_eq_some_iff] at found
    obtain ⟨record, chosen, rfl⟩ := found
    refine ⟨record, ?_, rfl⟩
    cases limit with
    | none => exact chosen
    | some n =>
      rw [Option.map_some, Option.getD_some, List.getElem?_take, Option.ite_none_right_eq_some] at chosen
      exact chosen.2
  unshaped value no_record := by
    cases value with
    | record _ => cases no_record
    | null | flag _ | number _ | text _ | list _ => rfl
  shaped fields := transformRecord_assignsInParallel ctx distinct fields
  unordered reordered same := funext (transformRecord_perm ctx distinct same)

/-- With parameters that can be read, a transformation answers with its records transformed one by one, each
field of them assigned from the record as it was. -/
theorem transformData_recordwise (ctx : Context) {fields : Fields} {source : Value} {limit : Option Nat}
    {rules : Option Fields} {records : List Value}
    (given : (⟨"transform_data", fields⟩ : Params).required "source" = .ok source)
    (listed : Buffers.recordsOf (sourceOf ctx source) = records)
    (limited : (⟨"transform_data", fields⟩ : Params).count? "slice_limit" = .ok limit)
    (ruled : (⟨"transform_data", fields⟩ : Params).record? "transforms" = .ok rules)
    (distinct : (Table.names (rules.getD [])).Nodup) :
    ∃ outputs, transformData fields ctx = (.ok (.list outputs), ctx) ∧
      TransformsRecordwise ctx (rules.getD []) limit records outputs := by
  refine ⟨transformedRecords ctx limit rules records, Prod.ext ?_ (transformData_onlyReads fields ctx),
    transformedRecords_recordwise ctx limit distinct records⟩
  rw [← listed]
  exact transformData_eq_ok_iff.mpr ⟨source, limit, rules, given, limited, ruled, rfl⟩

/-- A record, and values that are none. -/
def recordsTrial : List Value := [.record [("a", .count 1), ("b", .count 2)], .text "x", .null]

/-- Two rules, each of which gives the value of the other's field. -/
def rulesTrial : Fields := [("a", .text "$\x7bitem.b\x7d"), ("b", .text "$\x7bitem.a\x7d")]

/-- The parameters of a transformation of the first two values by these rules. -/
def exchangeTrial : Fields :=
  [("slice_limit", .text "2"), ("source", .list recordsTrial), ("transforms", .record rulesTrial)]

/-- The two fields are exchanged, with no third one to put a value aside. -/
theorem transformData_recordwise_trial :
    let ctx := Context.start [] [] ⟨0, none, fun _ => .null, fun _ => .error "", (0, 0), [], []⟩
    let params : Params := ⟨"transform_data", exchangeTrial⟩
    params.required "source" = .ok (.list recordsTrial) ∧
      Buffers.recordsOf (sourceOf ctx (.list recordsTrial)) = recordsTrial ∧
      params.count? "slice_limit" = .ok (some 2) ∧ params.record? "transforms" = .ok (some rulesTrial) ∧
      (Table.names rulesTrial).Nodup ∧
      (∃ outputs, transformData exchangeTrial ctx = (.ok (.list outputs), ctx) ∧
        TransformsRecordwise ctx rulesTrial (some 2) recordsTrial outputs) ∧
      (transformData exchangeTrial ctx).1.toOption.map Value.compact =
        some "[\x7b\"a\":2,\"b\":1\x7d,\"x\"]" := by
  intro ctx params
  have given : params.required "source" = .ok (.list recordsTrial) := rfl
  have listed : Buffers.recordsOf (sourceOf ctx (.list recordsTrial)) = recordsTrial := rfl
  have limited : params.count? "slice_limit" = .ok (some 2) := rfl
  have ruled : params.record? "transforms" = .ok (some rulesTrial) := rfl
  have distinct : (Table.names rulesTrial).Nodup := by decide
  exact ⟨given, listed, limited, ruled, distinct,
    transformData_recordwise ctx given listed limited ruled distinct, by decide +kernel⟩

end Stepwise.Action
