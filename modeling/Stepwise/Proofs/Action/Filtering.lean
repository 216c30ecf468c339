import Stepwise.Action.Outward
import Stepwise.Proofs.Table

/-!
# Filters by one value and by a list of one value

A filter expects of a field either a value, which the field has to equal, or a list of values, of which it has
to equal one. A list of one value should then keep what the value itself keeps. Records of a list are compared
as values on both ways. The cells of a file are texts: a value that is expected of them is compared as the text
that it is written as, but the values of a list are compared as they are, so that of a list only texts match.
-/

set_option autoImplicit false

namespace Stepwise

/-! ## Agreement is symmetric -/

/-- Two numbers agree in either order. -/
theorem Number.agrees_comm (m n : Number) : m.agrees n = n.agrees m := by
  cases m <;> cases n <;> simp [agrees, Binary64.agrees, Bool.and_comm, BEq.comm]

namespace Value

mutual

/-- Two values agree in either order. -/
theorem agrees_comm (x y : Value) : x.agrees y = y.agrees x := by
  cases x <;> cases y <;> simp only [agrees]
  case flag.flag => exact BEq.comm
  case text.text => exact BEq.comm
  case number.number m n => exact m.agrees_comm n
  case list.list xs ys => exact agreesList_comm xs ys
  case record.record xs ys => exact agreesFields_comm xs ys

/-- So do two lists, item by item. -/
theorem agreesList_comm (xs ys : List Value) : agreesList xs ys = agreesList ys xs := by
  cases xs <;> cases ys <;> simp only [agreesList]
  rename_i x xs y ys
  rw [agrees_comm x y, agreesList_comm xs ys]

/-- So do the fields of two records. -/
theorem agreesFields_comm (xs ys : List (String × Value)) : agreesFields xs ys = agreesFields ys xs := by
  cases xs <;> cases ys <;> simp only [agreesFields]
  rename_i x xs y ys
  rw [agrees_comm x.2 y.2, agreesFields_comm xs ys, BEq.comm]

end

end Value

namespace Action

/-! ## Matching -/

/-- A value is in a list of one value exactly if it equals the value. -/
theorem matchesExpected_singleton (actual : Option Value) {x : Value} (single : x.asList? = none) :
    matchesExpected actual (.list [x]) = matchesExpected actual x := by
  have alike : (fun value : Value => [x].any fun choice => choice.agrees value) = fun value => value.agrees x := by
    funext value
    rw [List.any_cons, List.any_nil, Bool.or_false, Value.agrees_comm]
  cases x with
  | list items => cases single
  | _ => exact congrArg (Option.any · actual) alike

/-- A cell equals a value if it is in the list of the text that the value is written as. -/
theorem cellMatches_eq (cell : Option Value) {x : Value} (single : x.asList? = none) :
    cellMatches cell x = cellMatches cell (.list [.text x.render]) := by
  have written : (Value.text x.render).asList? = none := rfl
  cases x with
  | list items => cases single
  | _ => exact (matchesExpected_singleton cell written).symm

/-- A cell, which is always a text, is in no list of one value that is not a text. -/
theorem cellMatches_singleton_of_not_text {cell : Option Value} (isText : ∀ value ∈ cell, ∃ s, value = .text s)
    {x : Value} (notText : ∀ s, x ≠ .text s) : cellMatches cell (.list [x]) = false := by
  cases cell with
  | none => rfl
  | some value =>
    obtain ⟨s, rfl⟩ := isText value rfl
    cases x with
    | text t => exact absurd rfl (notText t)
    | _ => rfl

/-! ## The rest of a filter -/

/-- A filter asks for what is expected of one field and for the rest, whatever is expected. -/
theorem exists_all_put {α : Type} (table : Table α) (name : String) (p : String × α → Bool) :
    ∃ rest : Bool, ∀ value, (Table.put table name value).all p = (p (name, value) && rest) := by
  obtain ⟨others, perm⟩ := Table.exists_put_perm table name
  exact ⟨others.all p, fun value => by rw [(perm value).all_eq, List.all_cons]⟩

/-- For `filter_collection` a single value and the list of just that value filter alike. -/
theorem passes_singleton (rest : Fields) (field : String) {x : Value} (single : x.asList? = none) :
    passes (Table.put rest field (.list [x])) = passes (Table.put rest field x) := by
  funext record
  obtain ⟨others, eq⟩ := exists_all_put rest field fun entry =>
    matchesExpected (fieldOf? record entry.1) entry.2
  simp only [passes, eq, matchesExpected_singleton _ single]

/-- For `read_csv` a single value filters as the list of its rendered text does. -/
theorem rowPasses_eq (rest : Fields) (field : String) {x : Value} (single : x.asList? = none) :
    rowPasses (Table.put rest field x) = rowPasses (Table.put rest field (.list [.text x.render])) := by
  funext row
  obtain ⟨others, eq⟩ := exists_all_put rest field fun entry =>
    cellMatches (Table.get? row entry.1) entry.2
  simp only [rowPasses, eq, cellMatches_eq _ single]

/-- No row of texts passes a filter that expects of a field to be in a list of one value other than a text. -/
theorem rowPasses_singleton_of_not_text {row : Fields}
    (isText : ∀ name value, Table.get? row name = some value → ∃ s, value = .text s) (rest : Fields)
    (field : String) {x : Value} (notText : ∀ s, x ≠ .text s) :
    rowPasses (Table.put rest field (.list [x])) row = false := by
  obtain ⟨others, eq⟩ := exists_all_put rest field fun entry =>
    cellMatches (Table.get? row entry.1) entry.2
  -- the one field is enough, whatever the rest says
  simp only [rowPasses, eq, cellMatches_singleton_of_not_text (isText field) notText, Bool.false_and]

/-! ## Rows of texts -/

/-- Every cell of a row is a text. -/
theorem isText_row {columns cells : List String} {name : String} {value : Value}
    (found : Table.get? (Csv.row columns cells) name = some value) : ∃ s, value = .text s := by
  have member := (List.of_mem_zip (Table.mem_of_get?_ofList found)).2
  obtain ⟨s, -, rfl⟩ := List.mem_map.mp member
  exact ⟨s, rfl⟩

/-- So is every cell of the rows made from a file's records. -/
theorem isText_rowsOf {columns : List String} {records : List Csv.Record} {rows : List Fields}
    (read : Csv.rowsOf columns records = .ok rows) :
    ∀ row ∈ rows, ∀ name value, Table.get? row name = some value → ∃ s, value = .text s := by
  induction records generalizing rows with
  | nil =>
    cases read
    simp
  | cons record rest ih =>
    unfold Csv.rowsOf at read
    split at read
    · cases read
    · split at read
      · cases read
      · cases read
      · rename_i cells others _ readOthers
        cases read
        rw [List.forall_mem_cons]
        exact ⟨fun name value found => isText_row found, ih readOthers⟩

/-- So is every cell of the rows read from a file's bytes. -/
theorem isText_rows {bytes : List UInt8} {rows : List Fields} (read : Csv.rows bytes = .ok rows) :
    ∀ row ∈ rows, ∀ name value, Table.get? row name = some value → ∃ s, value = .text s := by
  unfold Csv.rows at read
  split at read
  · cases read
    simp
  · rename_i first rest _
    cases columns : first.texts with
    | error fault => simp [columns, Except.bind] at read
    | ok names => exact isText_rowsOf (by simpa [columns, Except.bind] using read)

/-! ## What is filtered -/

/-- The parameters of a filter action that expects something of a field, and more of other fields. -/
def filtering (fields rest : Fields) (field : String) (expected : Value) : Fields :=
  Table.put fields "filter" (.record (Table.put rest field expected))

/-- Giving a filter leaves every other parameter as it was. -/
theorem required_put_filter {action key : String} (fields : Fields) (filter : Value) (other : key ≠ "filter") :
    Params.required ⟨action, Table.put fields "filter" filter⟩ key = Params.required ⟨action, fields⟩ key := by
  simp only [Params.required, Params.get?, Table.get?_put_of_ne fields filter other]

/-- A filter that is given is the filter that is read. -/
theorem record?_put_filter (action : String) (fields filter : Fields) :
    Params.record? ⟨action, Table.put fields "filter" (.record filter)⟩ "filter" = .ok (some filter) := by
  simp only [Params.record?, Params.get?, Table.get?_put_self]

/-- The records that a filter of a list chooses from. -/
def unfilteredRecords (fields : Fields) (ctx : Context) : Except ActionError (List Value) := do
  let source ← Params.required ⟨"filter_collection", fields⟩ "source"
  match sourceOf ctx source with
  | .list records => return records
  | _ => .error (.invalidParam "filter_collection" "source" .notList)

/-- The rows that a filter of a file chooses from. -/
def unfilteredRows (fields : Fields) (ctx : Context) : Except ActionError (List Fields) := do
  let file ← Params.requiredText ⟨"read_csv", fields⟩ "file"
  match ctx.outside.files file with
  | .error message => .error (.io message)
  | .ok bytes => (Csv.rows bytes).mapError .csv

/-- A filter of a list answers with the records that pass. -/
theorem filterCollection_put (fields filter : Fields) (ctx : Context) :
    filterCollection (Table.put fields "filter" (.record filter)) ctx =
      ((unfilteredRecords fields ctx).map fun records => .list (records.filter (passes filter)), ctx) := by
  have other : "source" ≠ "filter" := by decide
  simp only [filterCollection, checked, unfilteredRecords, required_put_filter fields _ other,
    record?_put_filter, bind, Except.bind]
  cases Params.required ⟨"filter_collection", fields⟩ "source" with
  | error e => rfl
  | ok source =>
    dsimp only
    cases sourceOf ctx source <;> rfl

/-- A filter of a file answers with the rows that pass. -/
theorem readCsv_put (fields filter : Fields) (ctx : Context) :
    readCsv (Table.put fields "filter" (.record filter)) ctx =
      ((unfilteredRows fields ctx).map fun rows => .list ((rows.filter (rowPasses filter)).map Value.record),
        ctx) := by
  have other : "file" ≠ "filter" := by decide
  have file_eq : Params.requiredText ⟨"read_csv", Table.put fields "filter" (.record filter)⟩ "file" =
      Params.requiredText ⟨"read_csv", fields⟩ "file" := by
    simp only [Params.requiredText, required_put_filter fields _ other]
  simp only [readCsv, checked, unfilteredRows, file_eq, record?_put_filter, bind, Except.bind, pure, Except.pure]
  cases Params.requiredText ⟨"read_csv", fields⟩ "file" with
  | error e => rfl
  | ok file =>
    dsimp only
    cases ctx.outside.files file with
    | error message => rfl
    | ok bytes =>
      dsimp only
      cases Csv.rows bytes <;> rfl

/-- Before any filter is applied, every cell of every row `read_csv` has is a text. -/
theorem isText_unfilteredRows {fields : Fields} {ctx : Context} {rows : List Fields}
    (read : unfilteredRows fields ctx = .ok rows) :
    ∀ row ∈ rows, ∀ name value, Table.get? row name = some value → ∃ s, value = .text s := by
  simp only [unfilteredRows, bind, Except.bind] at read
  split at read
  · cases read
  · split at read
    · cases read
    · rename_i bytes _
      cases parsed : Csv.rows bytes with
      | error fault => simp [parsed, Except.mapError] at read
      | ok found =>
        rw [parsed] at read
        cases read
        exact isText_rows parsed

/-! ## The laws -/

/-- What filtering by a value and by the list of that value have in common. -/
structure FiltersByMembership (fields rest : Fields) (field : String) (x : Value) (ctx : Context) : Prop where
  /-- A list of records is filtered alike. -/
  records : filterCollection (filtering fields rest field (.list [x])) ctx =
    filterCollection (filtering fields rest field x) ctx
  /-- The rows of a file are filtered alike by the value and by the list of the text that it is written as. -/
  rows : readCsv (filtering fields rest field (.list [.text x.render])) ctx =
    readCsv (filtering fields rest field x) ctx
  /-- So they are filtered alike by a text. -/
  text : ∀ s, x = .text s → readCsv (filtering fields rest field (.list [x])) ctx =
    readCsv (filtering fields rest field x) ctx
  /-- A list of anything but texts keeps no row, but fails where the value itself does. -/
  notText : (∀ s, x ≠ .text s) → readCsv (filtering fields rest field (.list [x])) ctx =
    ((readCsv (filtering fields rest field x) ctx).1.map fun _ => .list [], ctx)

/-- A list of one value keeps the same records of a list as the value itself, in the same order. It keeps the
same rows of a file if it is the list of the text that the value is written as; of any other value than a text
it keeps none. -/
theorem filtersByMembership (fields rest : Fields) (field : String) (x : Value) (single : x.asList? = none)
    (ctx : Context) : FiltersByMembership fields rest field x ctx := by
  have rows : readCsv (filtering fields rest field (.list [.text x.render])) ctx =
      readCsv (filtering fields rest field x) ctx := by
    rw [filtering, filtering, readCsv_put, readCsv_put, rowPasses_eq rest field single]
  refine ⟨?_, rows, ?_, fun notText => ?_⟩
  · rw [filtering, filtering, filterCollection_put, filterCollection_put, passes_singleton rest field single]
  · rintro s rfl
    exact rows
  · -- the same rows are read; only what passes is not the same
    rw [filtering, filtering, readCsv_put, readCsv_put]
    cases read : unfilteredRows fields ctx with
    | error e => rfl
    | ok rows =>
      have none_passes : rows.filter (rowPasses (Table.put rest field (.list [x]))) = [] := by
        rw [List.filter_eq_nil_iff]
        intro row member
        rw [rowPasses_singleton_of_not_text (isText_unfilteredRows read row member) rest field notText]
        exact Bool.false_ne_true
      simp only [Except.map, none_passes, List.map_nil]

/-- A context in which every file has a column `n` with the cell `5`. -/
def columnTrial : Context :=
  Context.start [] [] ⟨0, none, fun _ => .null, fun _ => .ok [110, 10, 53, 10], (0, 0), [], []⟩

/-- Reads that file with a filter of its column. -/
def columnFilter (expected : Value) : Fields := filtering [("file", .text "t.csv")] [] "n" expected

/-- The number of the cell keeps the row, and the list of that number keeps none. -/
theorem readCsv_columnTrial :
    (readCsv (columnFilter (.number (.whole 5))) columnTrial).1 = .ok (.list [.record [("n", .text "5")]]) ∧
    (readCsv (columnFilter (.list [.number (.whole 5)])) columnTrial).1 = .ok (.list []) :=
  ⟨rfl, rfl⟩

/-- The laws of that number, and that it keeps a row. -/
theorem filtersByMembership_number :
    (Value.number (.whole 5)).asList? = none ∧
    FiltersByMembership [("file", .text "t.csv")] [] "n" (.number (.whole 5)) columnTrial ∧
    (readCsv (columnFilter (.number (.whole 5))) columnTrial).1 =
      .ok (.list [.record [("n", .text "5")]]) :=
  ⟨rfl, filtersByMembership [("file", .text "t.csv")] [] "n" (.number (.whole 5)) rfl columnTrial,
    readCsv_columnTrial.1⟩

/-- So rows are not always filtered alike by a value and by the list of that value. -/
theorem filters_apart :
    ¬ ∀ (fields rest : Fields) (field : String) (x : Value) (ctx : Context), x.asList? = none → x ≠ .null →
      readCsv (filtering fields rest field (.list [x])) ctx = readCsv (filtering fields rest field x) ctx := by
  intro alike
  have same := congrArg Prod.fst
    (alike [("file", .text "t.csv")] [] "n" (.number (.whole 5)) columnTrial rfl (by simp))
  obtain ⟨kept, dropped⟩ := readCsv_columnTrial
  rw [columnFilter] at kept dropped
  rw [kept, dropped] at same
  simp at same

end Action

end Stepwise
