import Stepwise.Document.Node
import Stepwise.Text.Numeral

/-!
# Words of the JSON notation

A JSON text is cut into brackets, separators, names, numerals and quoted texts. A numeral that no
number is near to, and a quoted text with half of a surrogate pair, are words all the same; they only
stand for nothing.
-/

set_option autoImplicit false

namespace Stepwise.Json

/-- A word of a JSON text. -/
inductive Token where
  | openList
  | closeList
  | openRecord
  | closeRecord
  | comma
  | colon
  | scalar (value : Option Value)

/-- The characters that may stand between words. -/
def isSpace (c : Char) : Bool := c == ' ' || c == '\n' || c == '\t' || c == '\r'

/-- The value of a hexadecimal digit. -/
def hexValue? (c : Char) : Option Nat :=
  if c.isDigit then some (c.toNat - 48)
  else if 'a' ≤ c ∧ c ≤ 'f' then some (c.toNat - 87)
  else if 'A' ≤ c ∧ c ≤ 'F' then some (c.toNat - 55)
  else none

/-- The number of four hexadecimal digits. -/
def hexUnit? (a b c d : Char) : Option Nat := do
  let a ← hexValue? a
  let b ← hexValue? b
  let c ← hexValue? c
  let d ← hexValue? d
  return ((a * 16 + b) * 16 + c) * 16 + d

/-- A part of a quoted text: a character, or a unit of sixteen bits given by number. -/
inductive Part where
  | char (c : Char)
  | unit (n : Nat)

/-- The parts of a quoted text after its opening quote, and what follows the closing one. -/
def scanQuoted : List Char → Option (List Part × List Char)
  | [] => none
  | '"' :: rest => some ([], rest)
  | '\\' :: 'u' :: a :: b :: c :: d :: rest =>
    match hexUnit? a b c d with
    | some n => (scanQuoted rest).map fun found => (.unit n :: found.1, found.2)
    | none => none
  | '\\' :: c :: rest =>
    let meaning : Option Char :=
      match c with
      | '"' => some '"'
      | '\\' => some '\\'
      | '/' => some '/'
      | 'b' => some (Char.ofNat 8)
      | 'f' => some (Char.ofNat 12)
      | 'n' => some '\n'
      | 'r' => some '\r'
      | 't' => some '\t'
      | _ => none
    match meaning with
    | some meant => (scanQuoted rest).map fun found => (.char meant :: found.1, found.2)
    | none => none
  | c :: rest =>
    if c.toNat < 32 ∨ c = '\\' then none
    else (scanQuoted rest).map fun found => (.char c :: found.1, found.2)

/-- The characters of the parts; two units of a surrogate pair make one character, and a unit of a
pair that stands alone makes none. -/
def assemble? : List Part → Option (List Char)
  | [] => some []
  | .char c :: rest => (assemble? rest).map (c :: ·)
  | .unit high :: .unit low :: rest =>
    if 0xd800 ≤ high ∧ high < 0xdc00 then
      if 0xdc00 ≤ low ∧ low < 0xe000 then
        (assemble? rest).map (Char.ofNat (0x10000 + (high - 0xd800) * 0x400 + (low - 0xdc00)) :: ·)
      else none
    else if 0xdc00 ≤ high ∧ high < 0xe000 then none
    else (assemble? (.unit low :: rest)).map (Char.ofNat high :: ·)
  | .unit n :: rest =>
    if 0xd800 ≤ n ∧ n < 0xe000 then none else (assemble? rest).map (Char.ofNat n :: ·)

/-- A numeral at the start of a text, in its parts. -/
structure Literal where
  negative : Bool
  whole : List Char
  places : Option (List Char)
  power : Option (List Char)

/-- Appends decimal digits to a number as long as it fits 64 bits. What does not fit any more is left
over. -/
def fillDigits (number : Nat) : List Char → Nat × List Char
  | [] => (number, [])
  | c :: rest =>
    let longer := 10 * number + (c.toNat - 48)
    if longer ≤ Text.maxCount then fillDigits longer rest else (number, c :: rest)

/-- The number that a numeral stands for: a whole number if it is written as one and has 64 bits, else a
real number, if it is not too great. A real number is reckoned from the leading digits that fit 64 bits;
further ones only count. A zero with a sign is a real number. -/
def Literal.number? (l : Literal) : Option Number :=
  let (whole, cut) := fillDigits 0 l.whole
  let isWhole := l.places.isNone && l.power.isNone && cut.isEmpty
  if isWhole && !l.negative then some (.whole whole)
  else if isWhole && 0 < whole && decide (whole ≤ Nat.pow 2 63) then some (.whole (-(whole : Int)))
  else
    let places := l.places.getD []
    let (digits, unread) := fillDigits whole places
    match Text.exponent? (l.power.getD ['0']) with
    | none => none
    | some power =>
      let shift : Int := (cut.length : Int) - (places.length - unread.length : Nat)
      (Binary64.scaled? digits (power + shift)).map fun x => .real { x with negative := l.negative }

/-- The digits at the start of a text, and the rest. -/
def spanDigits (text : List Char) : List Char × List Char :=
  (text.takeWhile Char.isDigit, text.dropWhile Char.isDigit)

/-- The places after the point of a numeral, if it has a point. -/
def scanPlaces (text : List Char) : Option (Option (List Char) × List Char) :=
  match text with
  | '.' :: rest =>
    let (digits, rest) := spanDigits rest
    if digits.isEmpty then none else some (some digits, rest)
  | _ => some (none, text)

/-- The power of ten of a numeral, if it has one, with its sign. -/
def scanPower (text : List Char) : Option (Option (List Char) × List Char) :=
  match text with
  | c :: rest =>
    if c = 'e' ∨ c = 'E' then
      let (sign, rest) := match rest with
        | '+' :: rest => (['+'], rest)
        | '-' :: rest => (['-'], rest)
        | _ => ([], rest)
      let (digits, rest) := spanDigits rest
      if digits.isEmpty then none else some (some (sign ++ digits), rest)
    else some (none, text)
  | [] => some (none, text)

/-- A numeral at the start of a text, and the rest. A leading zero stands alone. -/
def scanNumeral (text : List Char) : Option (Literal × List Char) := do
  let (negative, text) := match text with
    | '-' :: rest => (true, rest)
    | _ => (false, text)
  let (whole, text) ← match text with
    | '0' :: rest => some (['0'], rest)
    | _ =>
      let (digits, rest) := spanDigits text
      if digits.isEmpty then none else some (digits, rest)
  let (places, text) ← scanPlaces text
  let (power, text) ← scanPower text
  return (⟨negative, whole, places, power⟩, text)

/-- The first word of a text that starts with no space, and the rest. -/
def next? (text : List Char) : Option (Token × List Char) :=
  match text with
  | '[' :: rest => some (.openList, rest)
  | ']' :: rest => some (.closeList, rest)
  | '{' :: rest => some (.openRecord, rest)
  | '}' :: rest => some (.closeRecord, rest)
  | ',' :: rest => some (.comma, rest)
  | ':' :: rest => some (.colon, rest)
  | 'n' :: 'u' :: 'l' :: 'l' :: rest => some (.scalar (some .null), rest)
  | 't' :: 'r' :: 'u' :: 'e' :: rest => some (.scalar (some (.flag true)), rest)
  | 'f' :: 'a' :: 'l' :: 's' :: 'e' :: rest => some (.scalar (some (.flag false)), rest)
  | '"' :: rest =>
    (scanQuoted rest).map fun found =>
      (.scalar ((assemble? found.1).map fun chars => .text (String.ofList chars)), found.2)
  | _ => (scanNumeral text).map fun found => (.scalar (found.1.number?.map Value.number), found.2)

/-- The words of a text. Every word takes up at least one character, so there are no more words than
characters. -/
def tokens? (text : List Char) : Option (List Token) := go text.length text
where
  go : Nat → List Char → Option (List Token)
    | bound, text =>
      match text.dropWhile isSpace, bound with
      | [], _ => some []
      | _, 0 => none
      | c :: rest, bound + 1 =>
        match next? (c :: rest) with
        | some (token, rest) => (go bound rest).map (token :: ·)
        | none => none

end Stepwise.Json
