import Stepwise.Yaml.Event
import Stepwise.Document.Node
import Stepwise.Text.Numeral
import Stepwise.Text.Utf8

/-!
# Meaning of YAML scalars

A plain scalar without tag is null, a truth value, a number or a text, by its spelling. Tags of the
standard ask for one kind; tags of the writer's own make data that is not plain.
-/

set_option autoImplicit false

namespace Stepwise.Yaml

/-- The spellings of null. -/
def isNullWord (text : String) : Bool := ["null", "Null", "NULL", "~"].contains text

/-- The truth value of a spelling. -/
def flag? (text : String) : Option Bool :=
  if ["true", "True", "TRUE"].contains text then some true
  else if ["false", "False", "FALSE"].contains text then some false
  else none

/-- A text without the sign that it starts with. -/
def unsigned (text : List Char) : List Char :=
  match text with
  | '+' :: rest => rest
  | '-' :: rest => rest
  | _ => text

/-- Digits behind a leading zero, which make no number. -/
def isPaddedDigits (text : List Char) : Bool :=
  match unsigned text with
  | '0' :: rest => !rest.isEmpty && rest.all Char.isDigit
  | _ => false

/-- The value of a digit of a base. -/
def digit? (base : Nat) (c : Char) : Option Nat := (Json.hexValue? c).filter (· < base)

/-- The number of some digits of a base. -/
def natural? (base : Nat) (digits : List Char) : Option Nat :=
  if digits.isEmpty then none
  else
    digits.foldl (fun total c => total.bind fun n => (digit? base c).map (base * n + ·)) (some 0)

/-- The number of some digits behind a mark for their base. -/
def marked? (text : List Char) : Option Nat :=
  match text with
  | '0' :: 'x' :: digits => natural? 16 digits
  | '0' :: 'o' :: digits => natural? 8 digits
  | '0' :: 'b' :: digits => natural? 2 digits
  | _ => none

/-- The whole number of a spelling, of whatever size. -/
def unbounded? (text : List Char) : Option Int :=
  let digits := unsigned text
  let size := (marked? digits).or (if isPaddedDigits text then none else natural? 10 digits)
  size.map fun n => if text.head? == some '-' then -(n : Int) else n

/-- What a spelling means as a whole number. -/
inductive Whole where
  | fits (n : Int)
  | tooWide
  | none

/-- Numbers of 64 bits are kept; wider ones up to 128 bits cannot be represented, and beyond that
nothing is recognised. -/
def whole (text : List Char) : Whole :=
  match unbounded? text with
  | some n =>
    if Number.leastWhole ≤ n ∧ n ≤ Number.greatestWhole then .fits n
    else if -(Nat.pow 2 127 : Int) ≤ n ∧ n < (Nat.pow 2 128 : Int) then .tooWide
    else .none
  | Option.none => .none

/-- The real number of a spelling; null stands for what is infinite or undefined. -/
def real? (text : List Char) : Option Value :=
  let positive := match text with
    | '+' :: rest => rest
    | _ => text
  if text.head? == some '+' && positive.head?.any (fun c => c == '+' || c == '-') then none
  else if [".inf", ".Inf", ".INF"].contains (String.ofList positive) then some .null
  else if ["-.inf", "-.Inf", "-.INF", ".nan", ".NaN", ".NAN"].contains (String.ofList text) then some .null
  else
    match Text.real? positive with
    | some (.finite x) => some (.number (.real x))
    | _ => none

/-- The value of a plain scalar without tag. -/
def plainValue? (text : String) : Option Value :=
  if text.isEmpty || isNullWord text then some .null
  else
    match flag? text, whole text.toList with
    | some b, _ => some (.flag b)
    | none, .fits n => some (.number (.whole n))
    | none, .tooWide => none
    | none, .none =>
      if isPaddedDigits text.toList then some (.text text)
      else (real? text.toList).or (some (.text text))

/-- A tag that starts as the writer's own do. -/
def isMarked (tag : List UInt8) : Bool := tag.head? == some 33

/-- A tag of the writer's own. One that is no text is none. -/
def isOwnTag (tag : Option (List UInt8)) : Bool :=
  tag.any fun tag => isMarked tag && (Text.ofUtf8 tag matches .ok _)

/-- The tag of a kind of the standard. -/
def standardTag (kind : String) : List UInt8 := Event.standardStem ++ kind.toUTF8.toList

/-- The value of a scalar. -/
def scalarValue? (tag : Option (List UInt8)) (text : String) (plain : Bool) : Option Value :=
  let untagged := if plain then plainValue? text else some (.text text)
  match tag with
  | none => untagged
  | some tag =>
    if isOwnTag (some tag) then none
    else if tag = standardTag "bool" then (flag? text).map Value.flag
    else if tag = standardTag "int" then
      match whole text.toList with
      | .fits n => some (.number (.whole n))
      | _ => none
    else if tag = standardTag "float" then real? text.toList
    else if tag = standardTag "null" then (if isNullWord text then some .null else none)
    else if isMarked tag then untagged
    else some (.text text)

/-- Whether a scalar is there where a field may be left out. -/
def presence (tag : Option (List UInt8)) (text : String) (plain : Bool) : Presence :=
  if !plain then .given
  else
    match tag with
    | none => if text.isEmpty || isNullWord text then .absent else .given
    | some tag =>
      if tag = standardTag "null" then (if isNullWord text then .absent else .refused) else .given

/-- The readings of a scalar. -/
def scalarReadings (tag : Option (List UInt8)) (text : String) (plain : Bool) : Scalar :=
  { text := some text, value := scalarValue? tag text plain, presence := presence tag text plain
    hollow := plain && text.isEmpty }

end Stepwise.Yaml
