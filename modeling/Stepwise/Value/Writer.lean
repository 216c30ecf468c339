import Stepwise.Value.Basic
import Stepwise.Number.Shortest

/-!
# Values as text

The compact notation writes no blanks; the wide one puts every item on a line of its own, indented by
two blanks per level. Records list their fields in order, so equal values have equal texts.
-/

set_option autoImplicit false

namespace Stepwise

/-- The digit of a number below sixteen, in lower case. -/
def hexDigit (n : Nat) : Char := if n < 10 then Char.ofNat (48 + n) else Char.ofNat (87 + n)

/-- A character inside quotes: the quote, the backslash and control characters are escaped. -/
def escapeChar (c : Char) : List Char :=
  if c = '"' then ['\\', '"']
  else if c = '\\' then ['\\', '\\']
  else if c = '\n' then ['\\', 'n']
  else if c = '\r' then ['\\', 'r']
  else if c = '\t' then ['\\', 't']
  else if c.toNat = 8 then ['\\', 'b']
  else if c.toNat = 12 then ['\\', 'f']
  else if c.toNat < 32 then ['\\', 'u', '0', '0', hexDigit (c.toNat / 16), hexDigit (c.toNat % 16)]
  else [c]

/-- A text in quotes. -/
def quoted (s : String) : List Char := '"' :: (s.toList.flatMap escapeChar ++ ['"'])

/-- The text of a number. -/
def Number.chars : Number → List Char
  | .whole n => (toString n).toList
  | .real x => x.text.toList

namespace Value

mutual

/-- The compact notation of a value. -/
def compactChars : Value → List Char
  | .null => "null".toList
  | .flag true => "true".toList
  | .flag false => "false".toList
  | .number n => n.chars
  | .text s => quoted s
  | .list items => '[' :: (compactItems items ++ [']'])
  | .record fields => '{' :: (compactFields fields ++ ['}'])

/-- Items with commas between them. -/
def compactItems : List Value → List Char
  | [] => []
  | [item] => compactChars item
  | item :: rest => compactChars item ++ ',' :: compactItems rest

/-- Fields with commas between them. -/
def compactFields : List (String × Value) → List Char
  | [] => []
  | [(name, value)] => quoted name ++ ':' :: compactChars value
  | (name, value) :: rest => quoted name ++ ':' :: (compactChars value ++ ',' :: compactFields rest)

end

/-- The compact text of a value. -/
def compact (v : Value) : String := String.ofList v.compactChars

/-- A new line with its indentation. -/
def newLine (level : Nat) : List Char := '\n' :: List.replicate (2 * level) ' '

mutual

/-- The wide notation of a value that stands at some level. -/
def wideChars (level : Nat) : Value → List Char
  | .list items =>
    if items.isEmpty then ['[', ']'] else '[' :: (wideItems (level + 1) items ++ newLine level ++ [']'])
  | .record fields =>
    if fields.isEmpty then ['{', '}'] else '{' :: (wideFields (level + 1) fields ++ newLine level ++ ['}'])
  | .null => "null".toList
  | .flag true => "true".toList
  | .flag false => "false".toList
  | .number n => n.chars
  | .text s => quoted s

/-- Items on lines of their own. -/
def wideItems (level : Nat) : List Value → List Char
  | [] => []
  | [item] => newLine level ++ wideChars level item
  | item :: rest => newLine level ++ wideChars level item ++ ',' :: wideItems level rest

/-- Fields on lines of their own. -/
def wideFields (level : Nat) : List (String × Value) → List Char
  | [] => []
  | [(name, value)] => newLine level ++ quoted name ++ ':' :: ' ' :: wideChars level value
  | (name, value) :: rest =>
    newLine level ++ quoted name ++ ':' :: ' ' :: (wideChars level value ++ ',' :: wideFields level rest)

end

/-- The wide text of a value. -/
def wide (v : Value) : String := String.ofList (v.wideChars 0)

/-- A value inside other text: a text as it is, nothing for null, else the compact text. -/
def render : Value → String
  | .text s => s
  | .null => ""
  | v => v.compact

end Value

end Stepwise
