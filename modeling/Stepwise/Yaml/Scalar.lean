import Stepwise.Yaml.Cursor
import Stepwise.Json.Token

/-!
# Scalars of YAML texts

The four ways to write a scalar: plain, in single or double quotes, and as a block of lines. Each reader
gives the text that the scalar stands for and the cursor behind it.
-/

set_option autoImplicit false

namespace Stepwise.Yaml

/-- A bracket or a comma, which ends a plain scalar inside of brackets. -/
def isFlowMark (c : Char) : Bool := c == ',' || c == '[' || c == ']' || c == '{' || c == '}'

/-- The characters of a plain scalar up to the next gap or its end; none if a colon stands where it
cannot. -/
def plainRun (inFlow : Bool) : List Char → Option (List Char)
  | [] => some []
  | c :: rest =>
    if isSpacing c || isBreak c then some []
    else if inFlow && c == ':' && rest.head?.any (fun d => isFlowMark d || d == '?') then none
    else if (c == ':' && atWordEnd rest) || (inFlow && isFlowMark c) then some []
    else (plainRun inFlow rest).map (c :: ·)

/-- Reads a plain scalar, whose lines after the first have to be indented. The flag tells whether a line
end was passed behind it. -/
def readPlain (inFlow : Bool) (least : Nat) :
    Nat → List Char → Gap → Cursor → Option (List Char × Bool × Cursor)
  | 0, text, gap, cursor => some (text, gap.broken, cursor)
  | bound + 1, text, gap, cursor =>
    if cursor.atAnyDocumentMark || cursor.rest.head? == some '#' then some (text, gap.broken, cursor)
    else do
      let run ← plainRun inFlow cursor.rest
      let (text, gap) := if run.isEmpty then (text, gap) else (text ++ gap.text ++ run, Gap.none)
      let cursor := cursor.skip run.length
      match cursor.rest with
      | [] => return (text, gap.broken, cursor)
      | c :: _ =>
        if isSpacing c || isBreak c then
          let (gap, cursor) ← Gap.read (some least) cursor.rest.length gap cursor
          if !inFlow && cursor.column < least then return (text, gap.broken, cursor)
          else readPlain inFlow least bound text gap cursor
        else return (text, gap.broken, cursor)

/-- The character that a letter stands for after a backslash. -/
def escaped? (c : Char) : Option Char :=
  match c with
  | '0' => some (Char.ofNat 0)
  | 'a' => some (Char.ofNat 7)
  | 'b' => some (Char.ofNat 8)
  | 't' => some '\t'
  | '\t' => some '\t'
  | 'n' => some '\n'
  | 'v' => some (Char.ofNat 11)
  | 'f' => some (Char.ofNat 12)
  | 'r' => some '\r'
  | 'e' => some (Char.ofNat 27)
  | ' ' => some ' '
  | '"' => some '"'
  | '/' => some '/'
  | '\\' => some '\\'
  | 'N' => some (Char.ofNat 0x85)
  | '_' => some (Char.ofNat 0xa0)
  | 'L' => some (Char.ofNat 0x2028)
  | 'P' => some (Char.ofNat 0x2029)
  | _ => none

/-- The number of hexadecimal digits that follow a letter after a backslash. -/
def escapeLength? (c : Char) : Option Nat :=
  match c with
  | 'x' => some 2
  | 'u' => some 4
  | 'U' => some 8
  | _ => none

/-- The number of some hexadecimal digits. -/
def hexNumber? (digits : List Char) : Option Nat :=
  digits.foldl (fun total c => total.bind fun n => (Json.hexValue? c).map (16 * n + ·)) (some 0)

/-- The character that an escape after a backslash stands for, and how many characters it takes. -/
def readEscape (text : List Char) : Option (Char × Nat) :=
  match text with
  | [] => none
  | c :: rest =>
    match escapeLength? c with
    | none => (escaped? c).map fun meant => (meant, 1)
    | some count =>
      if rest.length < count then none
      else
        (hexNumber? (rest.take count)).bind fun n =>
          if (0xd800 ≤ n ∧ n ≤ 0xdfff) ∨ 0x10ffff < n then none else some (Char.ofNat n, count + 1)

/-- Reads the characters of a quoted scalar up to the next gap or its closing quote. The flag tells
whether an escaped line end was passed last. -/
def quotedRun (quote : Char) : Nat → Cursor → Option (List Char × Bool × Cursor)
  | 0, _ => none
  | bound + 1, cursor =>
    let onward (c : Char) (count : Nat) :=
      (quotedRun quote bound (cursor.skip count)).map fun found => (c :: found.1, found.2)
    match cursor.rest with
    | [] => some ([], false, cursor)
    | c :: rest =>
      if isSpacing c || isBreak c then some ([], false, cursor)
      else if c == quote then
        if quote == '\'' && rest.head? == some '\'' then onward '\'' 2 else some ([], false, cursor)
      else if quote == '"' && c == '\\' then
        if rest.head?.any isBreak then some ([], true, (cursor.skip 1).takeBreak.2)
        else
          match readEscape rest with
          | some (meant, count) => onward meant (count + 1)
          | none => none
      else onward c 1

/-- Reads a quoted scalar after its opening quote. -/
def readQuoted (quote : Char) : Nat → List Char → Cursor → Option (List Char × Cursor)
  | 0, _, _ => none
  | bound + 1, text, cursor =>
    if cursor.atAnyDocumentMark || cursor.rest.isEmpty then none
    else do
      let (run, escapedBreak, cursor) ← quotedRun quote (cursor.rest.length + 1) cursor
      if !escapedBreak && cursor.rest.head? == some quote then return (text ++ run, cursor.skip 1)
      else
        let (gap, cursor) ←
          Gap.read none cursor.rest.length { Gap.none with broken := escapedBreak } cursor
        readQuoted quote bound (text ++ run ++ gap.text) cursor

/-- What becomes of the line ends behind a block. -/
inductive Chomping where
  | strip
  | clip
  | keep

/-- The head of a block: its chomping and its indentation, if it gives one. -/
def readHead (cursor : Cursor) : Option (Chomping × Option Nat × Cursor) :=
  let chomping? (c : Char) : Option Chomping :=
    if c = '+' then some .keep else if c = '-' then some .strip else none
  let indent? (c : Char) : Option Nat := if c.isDigit then some (c.toNat - 48) else none
  let (chomping, indent, count) : Option Chomping × Option Nat × Nat :=
    match cursor.rest with
    | c :: d :: _ =>
      match chomping? c, indent? c with
      | some chomping, _ => (some chomping, indent? d, if (indent? d).isSome then 2 else 1)
      | none, some indent => (chomping? d, some indent, if (chomping? d).isSome then 2 else 1)
      | none, none => (none, none, 0)
    | [c] => (chomping? c, indent? c, if (chomping? c).isSome || (indent? c).isSome then 1 else 0)
    | [] => (none, none, 0)
  if indent = some 0 then none else some (chomping.getD .clip, indent, cursor.skip count)

/-- Reads the empty lines before a line of a block. The indentation is passed as far as it is known; the
greatest column that was reached is kept. -/
def readEmptyLines (indent : Option Nat) :
    Nat → List Char → Nat → Cursor → Option (List Char × Nat × Cursor)
  | 0, breaks, reached, cursor => some (breaks, reached, cursor)
  | bound + 1, breaks, reached, cursor =>
    let spaces := (cursor.rest.takeWhile (· == ' ')).length
    let cursor := cursor.skip (match indent with
      | some n => min spaces (n - cursor.column)
      | none => spaces)
    let reached := max reached cursor.column
    let inside := match indent with
      | some n => decide (cursor.column < n)
      | none => true
    if inside && cursor.rest.head? == some '\t' then none
    else if cursor.rest.head?.any isBreak then
      let (text, cursor) := cursor.takeBreak
      readEmptyLines indent bound (breaks ++ text) reached cursor
    else some (breaks, reached, cursor)

/-- The lines of a block that were read. -/
structure Block where
  /-- The text so far. -/
  text : List Char
  /-- The end of the last line. -/
  ending : List Char
  /-- The empty lines behind it. -/
  trailing : List Char
  /-- The last line starts with spacing. -/
  spaced : Bool

/-- Reads the lines of a block. -/
def readLines (literal : Bool) (indent : Nat) : Nat → Block → Cursor → Option (Block × Cursor)
  | 0, block, cursor => some (block, cursor)
  | bound + 1, block, cursor =>
    if cursor.column ≠ indent ∨ cursor.rest.isEmpty then some (block, cursor)
    else do
      let spaced := cursor.rest.head?.any isSpacing
      let joint :=
        if !literal && block.ending == ['\n'] && !block.spaced && !spaced then
          (if block.trailing.isEmpty then [' '] else [])
        else block.ending
      let (line, cursor) := cursor.takeWhile fun c => !isBreak c
      let (ending, cursor) := cursor.takeBreak
      let (trailing, _, cursor) ← readEmptyLines (some indent) (cursor.rest.length + 1) [] 0 cursor
      readLines literal indent bound
        ⟨block.text ++ joint ++ block.trailing ++ line, ending, trailing, spaced⟩ cursor

/-- Reads a block after its mark. The indentation around it decides how far it has to be indented. -/
def readBlock (literal : Bool) (around : Option Nat) (cursor : Cursor) : Option (List Char × Cursor) := do
  let (chomping, given, cursor) ← readHead cursor
  let cursor ← cursor.endLine?
  let bound := cursor.rest.length + 1
  let fixed := given.map (around.getD 0 + ·)
  let (trailing, reached, cursor) ← readEmptyLines fixed bound [] 0 cursor
  let least := match around with
    | some n => n + 1
    | none => 1
  let indent := fixed.getD (max reached least)
  let (block, cursor) ← readLines literal indent bound ⟨[], [], trailing, false⟩ cursor
  let tail := match chomping with
    | .strip => []
    | .clip => block.ending
    | .keep => block.ending ++ block.trailing
  return (block.text ++ tail, cursor)

end Stepwise.Yaml
