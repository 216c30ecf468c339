import Stepwise.Csv.Record
import Stepwise.Text.Utf8
import Stepwise.Value.Writer

/-!
# Rows of comma separated values

The first record names the columns; every further record is a row of text fields and has to be as
long as the first.
-/

set_option autoImplicit false

namespace Stepwise.Csv

/-- Why bytes are not rows. -/
inductive Fault where
  | unequalLengths (position : Position) (length expected : Nat)
  | notText (position : Position) (field validBytes : Nat)
deriving DecidableEq, Repr

/-- The wording of a fault. -/
def Fault.message : Fault → String
  | .unequalLengths p length expected =>
    "CSV error: record " ++ toString p.record ++ " (line: " ++ toString p.line ++ ", byte: " ++
    toString p.byte ++ "): found record with " ++ toString length ++
    " fields, but the previous record has " ++ toString expected ++ " fields"
  | .notText p field validBytes =>
    "CSV parse error: record " ++ toString p.record ++ " (line " ++ toString p.line ++ ", field: " ++
    toString field ++ ", byte: " ++ toString p.byte ++ "): invalid utf-8: invalid UTF-8 in field " ++
    toString field ++ " near byte index " ++ toString validBytes

/-- The texts of fields from a given number on. -/
def texts (position : Position) (number : Nat) : List (List UInt8) → Except Fault (List String)
  | [] => .ok []
  | field :: rest =>
    match Text.ofUtf8 field with
    | .error valid => .error (.notText position number valid)
    | .ok chars => (texts position (number + 1) rest).map (String.ofList chars :: ·)

/-- The texts of a record. -/
def Record.texts (record : Record) : Except Fault (List String) :=
  Csv.texts record.position 0 record.fields

/-- A row under its column names; of two columns of one name the later stays. -/
def row (columns cells : List String) : Fields :=
  Table.ofList (columns.zip (cells.map Value.text))

/-- The rows of the records after the first. -/
def rowsOf (columns : List String) : List Record → Except Fault (List Fields)
  | [] => .ok []
  | record :: rest =>
    if record.fields.length ≠ columns.length then
      .error (.unequalLengths record.position record.fields.length columns.length)
    else
      match record.texts, rowsOf columns rest with
      | .error fault, _ => .error fault
      | _, .error fault => .error fault
      | .ok cells, .ok rows => .ok (row columns cells :: rows)

/-- The rows of some bytes. -/
def rows (bytes : List UInt8) : Except Fault (List Fields) :=
  match records bytes with
  | [] => .ok []
  | first :: rest => first.texts.bind fun columns => rowsOf columns rest

end Stepwise.Csv
