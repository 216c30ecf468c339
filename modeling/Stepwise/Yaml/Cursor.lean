/-!
# Places in a YAML text

A cursor is what is left of a text, with the column, the line and the number of bytes passed. Line
ends are those of YAML: line feeds, carriage returns, both as a pair, and three separators of Unicode.
-/

set_option autoImplicit false

namespace Stepwise.Yaml

/-- A character that a YAML text may hold. -/
def isAllowed (c : Char) : Bool :=
  let n := c.toNat
  n == 9 || n == 10 || n == 13 || (0x20 ≤ n && n ≤ 0x7e) || n == 0x85 || (0xa0 ≤ n && n ≤ 0xfffd) ||
  0x10000 ≤ n

/-- A space or a tabulator. -/
def isSpacing (c : Char) : Bool := c == ' ' || c == '\t'

/-- A character that ends a line. -/
def isBreak (c : Char) : Bool :=
  let n := c.toNat
  n == 10 || n == 13 || n == 0x85 || n == 0x2028 || n == 0x2029

/-- A character of names: a letter, a digit, an underscore or a hyphen of ASCII. -/
def isNameChar (c : Char) : Bool := c.isAlphanum || c == '_' || c == '-'

/-- Whether a text is at an end, or starts with a line end. -/
def atLineEnd : List Char → Bool
  | [] => true
  | c :: _ => isBreak c

/-- Whether a text is at an end, or starts with spacing or a line end. -/
def atWordEnd : List Char → Bool
  | [] => true
  | c :: _ => isSpacing c || isBreak c

/-- What is left of a text, and the place it starts at. -/
structure Cursor where
  rest : List Char
  /-- The number of bytes before it. -/
  index : Nat
  line : Nat
  column : Nat

namespace Cursor

/-- The start of a text. -/
def start (text : List Char) : Cursor := ⟨text, 0, 0, 0⟩

/-- Passes some characters of one line. -/
def skip (cursor : Cursor) (count : Nat) : Cursor :=
  let size := (cursor.rest.take count).foldl (fun total c => total + c.utf8Size) 0
  { cursor with
    rest := cursor.rest.drop count, index := cursor.index + size, column := cursor.column + count }

/-- The characters of one line from here that satisfy a test, and the cursor behind them. -/
def takeWhile (test : Char → Bool) (cursor : Cursor) : List Char × Cursor :=
  let taken := cursor.rest.takeWhile test
  (taken, cursor.skip taken.length)

/-- Passes the characters of one line that satisfy a test. -/
def skipWhile (test : Char → Bool) (cursor : Cursor) : Cursor := (cursor.takeWhile test).2

/-- Reads a line end: the text it stands for, and the cursor on the next line. Without a line end nothing
is read. -/
def takeBreak (cursor : Cursor) : List Char × Cursor :=
  let next (text : List Char) (rest : List Char) (count : Nat) : List Char × Cursor :=
    (text, ⟨rest, cursor.index + count, cursor.line + 1, 0⟩)
  match cursor.rest with
  | '\r' :: '\n' :: rest => next ['\n'] rest 2
  | c :: rest =>
    if c.toNat = 0x2028 ∨ c.toNat = 0x2029 then next [c] rest 1
    else if isBreak c then next ['\n'] rest 1
    else ([], cursor)
  | [] => ([], cursor)

/-- Passes what is left of a line but its end. -/
def skipLine (cursor : Cursor) : Cursor := cursor.skipWhile fun c => !isBreak c

/-- Whether a line of three equal marks, which parts documents, starts here. -/
def atDocumentMark (mark : Char) (cursor : Cursor) : Bool :=
  cursor.column == 0 && [mark, mark, mark].isPrefixOf cursor.rest && atWordEnd (cursor.rest.drop 3)

/-- Whether a mark that parts documents starts here. -/
def atAnyDocumentMark (cursor : Cursor) : Bool :=
  cursor.atDocumentMark '-' || cursor.atDocumentMark '.'

/-- Passes spacing, a comment, and demands the end of the line, which is passed as well. -/
def endLine? (cursor : Cursor) : Option Cursor :=
  let cursor := cursor.skipWhile isSpacing
  let cursor := match cursor.rest with
    | '#' :: _ => cursor.skipLine
    | _ => cursor
  if atLineEnd cursor.rest then some cursor.takeBreak.2 else none

end Cursor

/-- Line ends between two parts of a text: a single one becomes a space, of several the first is left
out. -/
def foldBreaks (first others : List Char) : List Char :=
  if first = ['\n'] then (if others.isEmpty then [' '] else others) else first ++ others

/-- Spacing and line ends between two parts of a text. -/
structure Gap where
  /-- The spacing before the first line end. -/
  spacing : List Char
  /-- A line end was passed. -/
  broken : Bool
  /-- The text of the first line end. -/
  first : List Char
  /-- The text of the other line ends. -/
  others : List Char

namespace Gap

/-- Nothing. -/
def none : Gap := ⟨[], false, [], []⟩

/-- What a gap contributes to the text around it. -/
def text (gap : Gap) : List Char := if gap.broken then foldBreaks gap.first gap.others else gap.spacing

/-- Reads a gap, going on from what was read of it. Where a least column is given, tabulators may not
take the place of indentation. -/
def read (least : Option Nat) : Nat → Gap → Cursor → Option (Gap × Cursor)
  | 0, gap, cursor => some (gap, cursor)
  | bound + 1, gap, cursor =>
    match cursor.rest with
    | [] => some (gap, cursor)
    | c :: _ =>
      if isSpacing c then
        if gap.broken && c == '\t' && least.any (cursor.column < ·) then Option.none
        else
          let gap := if gap.broken then gap else { gap with spacing := gap.spacing ++ [c] }
          read least bound gap (cursor.skip 1)
      else if isBreak c then
        let (text, cursor) := cursor.takeBreak
        let gap := if gap.broken then { gap with others := gap.others ++ text }
          else { gap with spacing := [], broken := true, first := text }
        read least bound gap cursor
      else some (gap, cursor)

end Gap

end Stepwise.Yaml
