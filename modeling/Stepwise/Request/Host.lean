import Stepwise.Request.Domain
import Stepwise.Request.Escape
import Stepwise.Text.Numeral
import Stepwise.Text.Utf8

/-!
# Hosts

A host is a machine that requests are sent to. It is known by a name, or by a number of 32 bits or of eight
pieces of 16. Numbers can be written in more than one way, and are shown in one.
-/

set_option autoImplicit false

namespace Stepwise

/-- What a machine is known by. -/
inductive Host where
  /-- A name; the empty one names no machine. -/
  | named (name : String)
  | four (number : Nat)
  | six (pieces : List Nat)
deriving DecidableEq, Repr

namespace Host

/-- The value of a hexadecimal digit. -/
def hexValue? (c : Char) : Option Nat :=
  if c.isDigit then some (c.toNat - 48)
  else if 'a' ≤ c ∧ c ≤ 'f' then some (c.toNat - 87)
  else if 'A' ≤ c ∧ c ≤ 'F' then some (c.toNat - 55)
  else none

/-- The number that digits of a base stand for. -/
def ofBase? (base : Nat) (digits : List Char) : Option Nat :=
  digits.foldlM (fun n c => ((hexValue? c).filter (· < base)).map fun d => base * n + d) 0

/-- The number that a part of a numeric host stands for: hexadecimal after `0x`, octal after `0`, else
decimal. The mark of the base alone stands for zero. -/
def partNumber? (part : List Char) : Option Nat :=
  match part with
  | [] => none
  | '0' :: 'x' :: digits => ofBase? 16 digits
  | '0' :: 'X' :: digits => ofBase? 16 digits
  | '0' :: d :: digits => ofBase? 8 (d :: digits)
  | digits => ofBase? 10 digits

/-- The parts of a name between its points, without an empty one at the end. -/
def parts (name : List Char) : List (List Char) :=
  let all := Text.split ['.'] name
  if all.getLast? == some [] then all.dropLast else all

/-- Whether a name ends in a number, as no name of a machine does. -/
def endsInNumber (name : List Char) : Bool :=
  match (parts name).getLast? with
  | some last => (!last.isEmpty && last.all Char.isDigit) || (partNumber? last).isSome
  | none => false

/-- The number of 32 bits that up to four parts say. The last part fills what the others leave. -/
def four? (name : List Char) : Option Host := do
  let numbers ← (parts name).mapM partNumber?
  let last ← numbers.getLast?
  let front := numbers.dropLast
  if 4 < numbers.length || front.any (255 < ·) || Nat.pow 256 (4 - front.length) ≤ last then none
  else
    let high := (front ++ List.replicate (4 - front.length) 0).foldl (fun n part => 256 * n + part) 0
    some (.four (high + last))

/-- The two pieces that the decimal form of a number of 32 bits says. -/
def decimalPieces? (text : List Char) : Option (List Nat) := do
  let decimals := Text.split ['.'] text
  if decimals.length != 4 || decimals.any (fun d => 1 < d.length && d.head? == some '0') then none
  match ← decimals.mapM Text.digits? with
  | [a, b, c, d] => if [a, b, c, d].any (255 < ·) then none else some [256 * a + b, 256 * c + d]
  | _ => none

/-- The piece that up to four hexadecimal digits say. -/
def piece? (text : List Char) : Option Nat :=
  if text.isEmpty || 4 < text.length then none else ofBase? 16 text

/-- The pieces that a text says, parted by colons; the last two may be in decimal form, if they end the
host. -/
def pieces? (isEnd : Bool) (text : List Char) : Option (List Nat) :=
  if text.isEmpty then some []
  else do
    let groups := Text.split [':'] text
    let front ← groups.dropLast.mapM piece?
    let last ← groups.getLast?
    if isEnd && last.contains '.' then return front ++ (← decimalPieces? last)
    return front ++ [← piece? last]

/-- The eight pieces that a text says. Two colons stand for pieces of zero, at least one. -/
def six? (text : List Char) : Option Host :=
  match Text.breakAt "::".toList text with
  | none => ((pieces? true text).filter (·.length == 8)).map .six
  | some (before, rest) => do
    let left ← pieces? false before
    let right ← pieces? true rest
    if 7 < left.length + right.length then none
    else some (.six (left ++ List.replicate (8 - left.length - right.length) 0 ++ right))

/-- The host between brackets, if there are brackets. -/
def bracketed? (text : List Char) : Option (Option Host) :=
  match text with
  | '[' :: rest =>
    if rest.getLast? == some ']' then some (six? rest.dropLast) else some none
  | _ => none

/-- The host that a text says in an address of the web's schemes. -/
def ofText? (text : List Char) : Option Host :=
  match bracketed? text with
  | some host => host
  | none => do
    let bytes := Escape.undone (String.ofList text).toUTF8.toList
    let name ← (Text.ofUtf8 bytes).toOption
    let asked ← Domain.asked? name
    if asked.isEmpty then none
    else if endsInNumber asked.toList then four? asked.toList
    else some (.named asked)

/-- The host that a text says in an address of any other scheme. It is taken as it is. -/
def ofForeign? (text : List Char) : Option Host :=
  match bracketed? text with
  | some host => host
  | none =>
    if text.any fun c => "\x00\t\n\r #/:<>?@[\\]^|".toList.contains c then none
    else some (.named (String.ofList (Escape.text Escape.unfitAnywhere text)))

/-- The digits of a piece, in base 16. -/
def pieceText (piece : Nat) : List Char := Nat.toDigits 16 piece

/-- How many pieces are zero from a place on. -/
def zerosFrom (pieces : List Nat) (place : Nat) : Nat := ((pieces.drop place).takeWhile (· == 0)).length

/-- The place and the length of the longest run of zeros, if one is longer than one; the first of them. -/
def longestZeros? (pieces : List Nat) : Option (Nat × Nat) :=
  let best := (List.range pieces.length).foldl (fun (best : Nat × Nat) place =>
    if best.2 < zerosFrom pieces place then (place, zerosFrom pieces place) else best) (0, 1)
  if 1 < best.2 then some best else none

/-- Pieces parted by colons; two colons stand for the longest run of zeros. -/
def piecesText (pieces : List Nat) : List Char :=
  let joined (part : List Nat) : List Char := Text.join [':'] (part.map pieceText)
  match longestZeros? pieces with
  | none => joined pieces
  | some (place, count) => joined (pieces.take place) ++ "::".toList ++ joined (pieces.drop (place + count))

/-- The text of a host. -/
def text : Host → String
  | .named name => name
  | .four n =>
    String.intercalate "." ([n / 16777216, n / 65536 % 256, n / 256 % 256, n % 256].map toString)
  | .six pieces => "[" ++ String.ofList (piecesText pieces) ++ "]"

/-- A machine's name that requests cannot be sent with, though an address may have it. -/
def isUnsendable : Host → Bool
  | .named name => name.toList.any fun c => "\"`\x7b\x7d".toList.contains c
  | _ => false

end Host

end Stepwise
