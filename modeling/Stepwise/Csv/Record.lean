/-!
# Records of comma separated values

Bytes are cut into records at line ends and into fields at commas. A field that starts with a quote
runs to the next single quote; a doubled one inside stands for itself. Lines without any character
are no records. Each record knows where the reader stood when it began to look for it.
-/

set_option autoImplicit false

namespace Stepwise.Csv

/-- A place in the bytes: the number of the record, the line, and the byte. -/
structure Position where
  record : Nat
  line : Nat
  byte : Nat
deriving DecidableEq, Repr

/-- The fields of a record, and where it was looked for. -/
structure Record where
  fields : List (List UInt8)
  position : Position

/-- Where in a record the reader stands. -/
inductive Mode where
  | recordStart
  | afterReturn
  | fieldStart
  | bare
  | quoted
  | quoteInQuoted
deriving DecidableEq

/-- What a byte does, before its effect on the position. -/
inductive Effect where
  | skip
  | copy
  | endField
  | endRecord
deriving DecidableEq

/-- The byte between two cells of a record. -/
def comma : UInt8 := 44
/-- The byte around a cell that may hold commas and line ends. -/
def quote : UInt8 := 34
/-- One of the two bytes that end a record. -/
def lineFeed : UInt8 := 10
/-- The other of the two bytes that end a record. -/
def carriageReturn : UInt8 := 13

/-- What a byte does after a field has begun. A carriage return ends the record too, and a line feed
that follows belongs to the same line end. -/
def inField (byte : UInt8) : Mode × Effect :=
  if byte = comma then (.fieldStart, .endField)
  else if byte = lineFeed then (.recordStart, .endRecord)
  else if byte = carriageReturn then (.afterReturn, .endRecord)
  else (.bare, .copy)

/-- What a byte does at the start of a field. -/
def atFieldStart (byte : UInt8) : Mode × Effect :=
  if byte = quote then (.quoted, .skip) else inField byte

/-- What a byte does at the start of a record. -/
def atRecordStart (byte : UInt8) : Mode × Effect :=
  if byte = lineFeed ∨ byte = carriageReturn then (.recordStart, .skip) else atFieldStart byte

/-- What a byte does. -/
def Mode.next (mode : Mode) (byte : UInt8) : Mode × Effect :=
  match mode with
  | .recordStart => atRecordStart byte
  | .afterReturn => if byte = lineFeed then (.recordStart, .skip) else atRecordStart byte
  | .fieldStart => atFieldStart byte
  | .bare => inField byte
  | .quoted => if byte = quote then (.quoteInQuoted, .skip) else (.quoted, .copy)
  | .quoteInQuoted => if byte = quote then (.quoted, .copy) else inField byte

/-- What was read so far; fields and records last first. -/
structure State where
  mode : Mode
  field : List UInt8
  fields : List (List UInt8)
  start : Position
  line : Nat
  byte : Nat
  records : List Record

namespace State

/-- Ends the field. -/
def endField (s : State) : State := { s with field := [], fields := s.field.reverse :: s.fields }

/-- Ends the record. -/
def endRecord (s : State) : State :=
  let s := s.endField
  { s with
    fields := []
    records := ⟨s.fields.reverse, s.start⟩ :: s.records
    start := ⟨s.start.record + 1, s.line, s.byte⟩ }

/-- Reads one byte. -/
def step (s : State) (byte : UInt8) : State :=
  let (mode, effect) := s.mode.next byte
  let s := { s with
    mode
    byte := s.byte + 1
    line := if byte = lineFeed then s.line + 1 else s.line }
  match effect with
  | .skip => s
  | .copy => { s with field := byte :: s.field }
  | .endField => s.endField
  | .endRecord => s.endRecord

/-- Ends the record that the end of the bytes cuts off. -/
def finish (s : State) : State :=
  match s.mode with
  | .recordStart => s
  | .afterReturn => s
  | _ => s.endRecord

end State

/-- The records of some bytes. A byte order mark at the start is passed over. -/
def records (bytes : List UInt8) : List Record :=
  let (skipped, bytes) := match bytes with
    | 0xef :: 0xbb :: 0xbf :: rest => (3, rest)
    | _ => (0, bytes)
  let start : State := ⟨.recordStart, [], [], ⟨0, 1, 0⟩, 1, skipped, []⟩
  (bytes.foldl State.step start).finish.records.reverse

end Stepwise.Csv
