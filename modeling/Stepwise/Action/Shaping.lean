import Stepwise.Action.Stored

/-!
# Actions that choose and reshape records

Filters keep the records whose fields match; transforms set fields of every record.
-/

set_option autoImplicit false

namespace Stepwise.Action

/-- A value matches what a filter expects of it: to be equal, or to be in the list given. A missing
value matches nothing. -/
def matchesExpected (actual : Option Value) (expected : Value) : Bool :=
  match expected with
  | .list allowed => actual.any fun value => allowed.any fun choice => choice.agrees value
  | _ => actual.any fun value => value.agrees expected

/-- A field of a record; other values have none. -/
def fieldOf? (record : Value) (name : String) : Option Value :=
  record.asFields?.bind fun fields => Table.get? fields name

/-- A record passes a filter if each of its fields matches. -/
def passes (filter : Fields) (record : Value) : Bool :=
  filter.all fun entry => matchesExpected (fieldOf? record entry.1) entry.2

/-- Keeps the records of a list that pass a filter. -/
def filterCollection : Action := fun fields =>
  let params : Params := ⟨"filter_collection", fields⟩
  checked (params.required "source") fun source ctx =>
    match sourceOf ctx source with
    | .list records =>
      ctx |> checked (params.record? "filter") fun filter ctx =>
        (.ok (.list (records.filter (passes (filter.getD [])))), ctx)
    | _ => (.error (.invalidParam params.action "source" .notList), ctx)

/-- What a table of a transform holds for the text of a field; the default if it holds nothing that
counts as true. -/
def mappedField (record : Value) (rule : Fields) : Value :=
  let key := ((Table.get? rule "source").bind Value.asText?).bind (fieldOf? record)
  let mapped := key.bind fun value =>
    (Table.get? rule "mapping").bind fun mapping => fieldOf? mapping value.render
  (mapped.filter Value.isTruthy).getD ((Table.get? rule "default").getD .null)

/-- The resolved values of a transform, joined. -/
def joinedField (scope : Scope) (rule : Fields) : Value :=
  let separator := ((Table.get? rule "separator").bind Value.asText?).getD ""
  let values := ((Table.get? rule "values").bind Value.asList?).getD []
  .text (separator.intercalate (values.map fun value => (value.resolve scope).render))

/-- The value that a transform gives to a field: a text is a template, a record a rule of one of two
types, anything else the value itself. A rule of another type gives none. -/
def transformed? (scope : Scope) (record rule : Value) : Option Value :=
  match rule with
  | .text template => some (Template.resolveText scope template)
  | .record fields =>
    match Table.get? fields "type" with
    | some (.text "map") => some (mappedField record fields)
    | some (.text "concat") => some (joinedField scope fields)
    | _ => none
  | other => some other

/-- Applies transforms to a record, each to the record as it was. Other values are left alone. -/
def transformRecord (ctx : Context) (rules : Fields) (record : Value) : Value :=
  match record with
  | .record fields =>
    .record (rules.foldl
      (fun done rule =>
        match transformed? (ctx.itemScope record) record rule.2 with
        | some value => Table.put done rule.1 value
        | none => done)
      fields)
  | _ => record

/-- Applies transforms to the first records of a list. -/
def transformData : Action := fun fields =>
  let params : Params := ⟨"transform_data", fields⟩
  let checks := do
    let source ← params.required "source"
    let limit ← params.count? "slice_limit"
    let rules ← params.record? "transforms"
    return (source, limit, rules)
  checked checks fun (source, limit, rules) ctx =>
    let records := Buffers.recordsOf (sourceOf ctx source)
    let chosen := match limit with
      | some n => records.take n
      | none => records
    match rules with
    | some rules => (.ok (.list (chosen.map (transformRecord ctx rules))), ctx)
    | none => (.ok (.list chosen), ctx)

end Stepwise.Action
