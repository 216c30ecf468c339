import Stepwise.Yaml.Scalar
import Stepwise.Text.Numeral

/-!
# Words of the YAML notation

A YAML text is cut into the marks of its structure and its scalars. Indentation opens and closes
collections. A key that is written without a mark of its own is recognised only at the colon behind it;
the marks for it are then put before it.
-/

set_option autoImplicit false

namespace Stepwise.Yaml

/-- A word of a YAML text. -/
inductive Token where
  | version (major minor : Nat)
  | tagShorthand (handle : String) (stem : List UInt8)
  | documentStart
  | documentEnd
  | blockList
  | blockMapping
  | blockEnd
  | flowList
  | flowListEnd
  | flowMapping
  | flowMappingEnd
  | entry
  | comma
  | key
  | value
  | alias (name : String)
  | anchor (name : String)
  | tag (handle : String) (suffix : List UInt8)
  | scalar (text : String) (plain : Bool)
deriving DecidableEq, Repr

/-- A place where a key may have started: the number of words before it, and where it is. -/
structure PendingKey where
  position : Nat
  required : Bool
  index : Nat
  line : Nat
  column : Nat

/-- How far a text is read. -/
structure Scan where
  cursor : Cursor
  /-- The words read, last first. -/
  words : List Token
  count : Nat
  /-- The column of the innermost block, and those of the blocks around it. -/
  indent : Option Nat
  outer : List (Option Nat)
  /-- A key may start here. -/
  keyAllowed : Bool
  /-- The key that may have started at each level of brackets, innermost first. -/
  keys : List (Option PendingKey)

namespace Scan

/-- The start of a text. -/
def start (text : List Char) : Scan := ⟨Cursor.start text, [], 0, none, [], true, [none]⟩

/-- The place is inside of brackets. -/
def inFlow (scan : Scan) : Bool := 1 < scan.keys.length

/-- Adds a word. -/
def push (scan : Scan) (word : Token) : Scan :=
  { scan with words := word :: scan.words, count := scan.count + 1 }

/-- Puts a word before those from some position on. -/
def insert (scan : Scan) (position : Nat) (word : Token) : Scan :=
  { scan with
    words := scan.words.insertIdx (scan.count - position) word
    count := scan.count + 1 }

/-- Adds a word that takes up some characters. -/
def mark (scan : Scan) (length : Nat) (word : Token) : Scan :=
  { scan.push word with cursor := scan.cursor.skip length }

/-- The innermost place where a key may have started. -/
def pending? (scan : Scan) : Option PendingKey := scan.keys.head?.join

/-- Forgets the innermost place where a key may have started; none if a key had to be there. -/
def dropKey (scan : Scan) : Option Scan :=
  match scan.pending? with
  | some key => if key.required then none else some { scan with keys := none :: scan.keys.tail }
  | none => some scan

/-- Notes that a key may start here, if it may. -/
def noteKey (scan : Scan) : Option Scan :=
  if scan.keyAllowed then do
    let scan ← scan.dropKey
    let key : PendingKey :=
      { position := scan.count
        required := !scan.inFlow && scan.indent == some scan.cursor.column
        index := scan.cursor.index, line := scan.cursor.line, column := scan.cursor.column }
    return { scan with keys := some key :: scan.keys.tail }
  else some scan

/-- A key stands on one line and does not have more bytes than this. -/
def maxKeyLength : Nat := 1024

/-- A place is too far behind to be that of a key. -/
def isStale (cursor : Cursor) (key : PendingKey) : Bool :=
  key.line < cursor.line || key.index + maxKeyLength < cursor.index

/-- Forgets the places that are too far behind; none if a key had to be at one. -/
def dropStaleKeys (scan : Scan) : Option Scan :=
  if scan.keys.any fun key => key.any fun key => key.required && isStale scan.cursor key then none
  else some { scan with keys := scan.keys.map fun key => key.filter fun key => !isStale scan.cursor key }

/-- Opens a block at a column, if it lies deeper than the innermost one. The mark of the block is put at
the position given, or at the end. -/
def openBlock (scan : Scan) (column : Nat) (position : Option Nat) (word : Token) : Scan :=
  if scan.inFlow || scan.indent.any (column ≤ ·) then scan
  else
    let scan := { scan with indent := some column, outer := scan.indent :: scan.outer }
    match position with
    | some position => scan.insert position word
    | none => scan.push word

/-- Closes blocks from the innermost on, as long as they lie deeper than a column. -/
def closeBlocks (column : Option Nat) (scan : Scan) : Scan :=
  if scan.inFlow then scan else close scan.outer scan
where
  close : List (Option Nat) → Scan → Scan
    | [], scan => scan
    | around :: outer, scan =>
      if scan.indent.any fun indent => column.all (· < indent) then
        close outer { scan.push .blockEnd with indent := around, outer }
      else scan

/-- Passes spacing, comments and line ends up to the next word. A line may start with a mark of the byte
order, which takes up a column. -/
def toNextWord : Nat → Scan → Scan
  | 0, scan => scan
  | bound + 1, scan =>
    let cursor := scan.cursor
    match cursor.rest with
    | [] => scan
    | c :: _ =>
      if c.toNat = 0xfeff ∧ cursor.column = 0 then toNextWord bound { scan with cursor := cursor.skip 1 }
      else if c == ' ' || (c == '\t' && (scan.inFlow || !scan.keyAllowed)) then
        toNextWord bound { scan with cursor := cursor.skip 1 }
      else if c == '#' then toNextWord bound { scan with cursor := cursor.skipLine }
      else if isBreak c then
        toNextWord bound
          { scan with cursor := cursor.takeBreak.2, keyAllowed := scan.keyAllowed || !scan.inFlow }
      else scan

end Scan

/-- A character of the address of a tag. -/
def isTagChar (verbatim : Bool) (c : Char) : Bool :=
  isNameChar c || ";/?:@&=+$.%!~*'()".toList.contains c || (verbatim && ",[]".toList.contains c)

/-- The number of bytes of a character whose first byte is given. -/
def byteCount? (first : Nat) : Option Nat :=
  if first < 0x80 then some 1
  else if first < 0xc0 then none
  else if first < 0xe0 then some 2
  else if first < 0xf0 then some 3
  else if first < 0xf8 then some 4
  else none

/-- The byte of a percent sign and two hexadecimal digits. -/
def percentByte? : List Char → Option (Nat × List Char)
  | '%' :: a :: b :: rest => (hexNumber? [a, b]).map fun n => (n, rest)
  | _ => none

/-- Reads bytes that continue a character. -/
def continuation? : Nat → List Char → Option (List Nat × List Char)
  | 0, text => some ([], text)
  | count + 1, text => do
    let (byte, text) ← percentByte? text
    if byte < 0x80 ∨ 0xc0 ≤ byte then none
    let (bytes, text) ← continuation? count text
    return (byte :: bytes, text)

/-- Decodes the escapes of the address of a tag. The bytes of a character have to look like some, but they
need not make one. -/
def decodeTag : Nat → List Char → Option (List UInt8)
  | _, [] => some []
  | 0, _ => none
  | bound + 1, c :: rest =>
    if c = '%' then do
      let (byte, next) ← percentByte? (c :: rest)
      let count ← byteCount? byte
      let (bytes, next) ← continuation? (count - 1) next
      let tail ← decodeTag bound next
      return (byte :: bytes).map UInt8.ofNat ++ tail
    else (decodeTag bound rest).map (UInt8.ofNat c.toNat :: ·)

/-- Reads the address of a tag, after what was read of it before. It ends at the first zero byte, however
much is written behind it. -/
def readTagAddress (verbatim mayBeEmpty : Bool) (before : List Char) (cursor : Cursor) :
    Option (List UInt8 × Cursor) := do
  let (text, cursor) := cursor.takeWhile (isTagChar verbatim)
  if before.isEmpty && text.isEmpty && !mayBeEmpty then none
  let decoded ← decodeTag text.length text
  return ((before.map (UInt8.ofNat ·.toNat) ++ decoded).takeWhile (· != 0), cursor)

/-- The address of a tag that is a mark alone. -/
def bareMark : List UInt8 := [33]

/-- Reads the handle of a tag: an exclamation mark, a name, and perhaps another mark. -/
def readTagHandle (cursor : Cursor) : Option (List Char × Cursor) :=
  match cursor.rest with
  | '!' :: _ =>
    let (name, cursor) := (cursor.skip 1).takeWhile isNameChar
    match cursor.rest with
    | '!' :: _ => some ('!' :: (name ++ ['!']), cursor.skip 1)
    | _ => some ('!' :: name, cursor)
  | _ => none

/-- Reads a tag. -/
def readTag (inFlow : Bool) (cursor : Cursor) : Option (Token × Cursor) := do
  let (word, cursor) ← (match cursor.rest with
    | '!' :: '<' :: _ => do
      let (address, cursor) ← readTagAddress true false [] (cursor.skip 2)
      if cursor.rest.head? == some '>' then some (Token.tag "" address, cursor.skip 1) else none
    | _ => do
      let (handle, cursor) ← readTagHandle cursor
      if 1 < handle.length && handle.getLast? == some '!' then
        let (address, cursor) ← readTagAddress false false [] cursor
        some (Token.tag (String.ofList handle) address, cursor)
      else
        let (address, cursor) ← readTagAddress false true handle.tail cursor
        some (if address.isEmpty then Token.tag "" bareMark else Token.tag "!" address, cursor)
    : Option (Token × Cursor))
  if (inFlow && cursor.rest.head? == some ',') || atWordEnd cursor.rest then return (word, cursor) else none

/-- Reads the name of an anchor or an alias after its mark. -/
def readName (cursor : Cursor) : Option (String × Cursor) :=
  let (name, cursor) := cursor.takeWhile isNameChar
  let ends := atWordEnd cursor.rest || cursor.rest.head?.any fun c => "?:,]\x7d%@`".toList.contains c
  if name.isEmpty || !ends then none else some (String.ofList name, cursor)

/-- Reads a number of the version. -/
def readVersionNumber (cursor : Cursor) : Option (Nat × Cursor) :=
  let (digits, cursor) := cursor.takeWhile Char.isDigit
  if 9 < digits.length then none else (Text.digits? digits).map fun n => (n, cursor)

/-- Reads a directive after its percent sign. -/
def readDirective (cursor : Cursor) : Option (Token × Cursor) := do
  let (name, cursor) := cursor.takeWhile isNameChar
  if name.isEmpty || !atWordEnd cursor.rest then none
  let cursor := cursor.skipWhile isSpacing
  let (word, cursor) ← (if name = "YAML".toList then do
      let (major, cursor) ← readVersionNumber cursor
      if cursor.rest.head? != some '.' then none
      let (minor, cursor) ← readVersionNumber (cursor.skip 1)
      return (Token.version major minor, cursor)
    else if name = "TAG".toList then do
      let (handle, cursor) ← readTagHandle cursor
      if handle ≠ ['!'] ∧ (handle.length < 2 ∨ handle.getLast? ≠ some '!') then none
      if !cursor.rest.head?.any isSpacing then none
      let (stem, cursor) ← readTagAddress true false [] (cursor.skipWhile isSpacing)
      if atWordEnd cursor.rest then return (Token.tagShorthand (String.ofList handle) stem, cursor) else none
    else none : Option (Token × Cursor))
  return (word, ← cursor.endLine?)

namespace Scan

/-- Opens brackets. -/
def openFlow (word : Token) (scan : Scan) : Option Scan := do
  let scan ← scan.noteKey
  return { scan.mark 1 word with keys := none :: scan.keys, keyAllowed := true }

/-- Closes brackets. -/
def closeFlow (word : Token) (scan : Scan) : Option Scan := do
  let scan ← scan.dropKey
  let keys := if scan.inFlow then scan.keys.tail else scan.keys
  return { scan.mark 1 word with keys, keyAllowed := false }

/-- Reads a hyphen that starts an item. -/
def readEntry (scan : Scan) : Option Scan := do
  if !scan.inFlow && !scan.keyAllowed then none
  let scan ← (scan.openBlock scan.cursor.column none .blockList).dropKey
  return { scan.mark 1 .entry with keyAllowed := true }

/-- Reads a question mark that starts a key. -/
def readKey (scan : Scan) : Option Scan := do
  if !scan.inFlow && !scan.keyAllowed then none
  let scan ← (scan.openBlock scan.cursor.column none .blockMapping).dropKey
  return { scan.mark 1 .key with keyAllowed := !scan.inFlow }

/-- Reads a colon that starts a value, and recognises the key before it. -/
def readValue (scan : Scan) : Option Scan :=
  match scan.pending? with
  | some key =>
    let scan := (scan.insert key.position .key).openBlock key.column (some key.position) .blockMapping
    some { scan.mark 1 .value with keys := none :: scan.keys.tail, keyAllowed := false }
  | none =>
    if !scan.inFlow && !scan.keyAllowed then none
    else
      let scan := scan.openBlock scan.cursor.column none .blockMapping
      some { scan.mark 1 .value with keyAllowed := !scan.inFlow }

/-- Adds a word that may be a key, read by a function from the cursor. -/
def readContent (read : Cursor → Option (Token × Cursor)) (scan : Scan) : Option Scan := do
  let scan ← scan.noteKey
  let (word, cursor) ← read scan.cursor
  return { scan.push word with cursor, keyAllowed := false }

/-- Reads a plain scalar, behind which a key may start on a new line. -/
def readPlainScalar (scan : Scan) : Option Scan := do
  let scan ← scan.noteKey
  let least := match scan.indent with
    | some n => n + 1
    | none => 0
  let (text, broken, cursor) ←
    readPlain scan.inFlow least (scan.cursor.rest.length + 1) [] Gap.none scan.cursor
  return { scan.push (.scalar (String.ofList text) true) with cursor, keyAllowed := broken }

/-- Reads a block. -/
def readBlockScalar (literal : Bool) (scan : Scan) : Option Scan := do
  let scan ← scan.dropKey
  let (text, cursor) ← readBlock literal scan.indent (scan.cursor.skip 1)
  return { scan.push (.scalar (String.ofList text) false) with cursor, keyAllowed := true }

/-- Reads a quoted scalar. -/
def readQuotedScalar (quote : Char) : Scan → Option Scan :=
  readContent fun cursor =>
    (readQuoted quote (cursor.rest.length + 1) [] (cursor.skip 1)).map fun found =>
      (.scalar (String.ofList found.1) false, found.2)

/-- Reads a mark that parts documents, or a directive: all blocks end before it. -/
def readTopLevel (read : Cursor → Option (Token × Cursor)) (scan : Scan) : Option Scan := do
  let scan ← (scan.closeBlocks none).dropKey
  let (word, cursor) ← read scan.cursor
  return { scan.push word with cursor, keyAllowed := false }

/-- Ends the text. -/
def finish (scan : Scan) : Option Scan := (scan.closeBlocks none).dropKey

/-- Reads the word that starts at the cursor, of which the first character is given. -/
def readWord (c : Char) (rest : List Char) (scan : Scan) : Option Scan :=
  let cursor := scan.cursor
  let marks := scan.inFlow || atWordEnd rest
  if cursor.column == 0 && c == '%' then scan.readTopLevel fun cursor => readDirective (cursor.skip 1)
  else if cursor.atDocumentMark '-' then scan.readTopLevel fun cursor => some (.documentStart, cursor.skip 3)
  else if cursor.atDocumentMark '.' then scan.readTopLevel fun cursor => some (.documentEnd, cursor.skip 3)
  else
    match c with
    | '[' => scan.openFlow .flowList
    | '{' => scan.openFlow .flowMapping
    | ']' => scan.closeFlow .flowListEnd
    | '}' => scan.closeFlow .flowMappingEnd
    | ',' => scan.dropKey.map fun scan => { scan.mark 1 .comma with keyAllowed := true }
    | '*' => scan.readContent fun cursor =>
      (readName (cursor.skip 1)).map fun found => (.alias found.1, found.2)
    | '&' => scan.readContent fun cursor =>
      (readName (cursor.skip 1)).map fun found => (.anchor found.1, found.2)
    | '!' => scan.readContent (readTag scan.inFlow)
    | '\'' => scan.readQuotedScalar '\''
    | '"' => scan.readQuotedScalar '"'
    | '|' => if scan.inFlow then none else scan.readBlockScalar true
    | '>' => if scan.inFlow then none else scan.readBlockScalar false
    | '-' =>
      if atWordEnd rest then scan.readEntry else scan.readPlainScalar
    | '?' => if marks then scan.readKey else scan.readPlainScalar
    | ':' => if marks then scan.readValue else scan.readPlainScalar
    | c => if isSpacing c || "%@`".toList.contains c then none else scan.readPlainScalar

/-- Reads the words of a text. Every word takes up at least one character, so there are no more words
than characters. -/
def run : Nat → Scan → Option Scan
  | bound, scan => do
    let scan ← (toNextWord (scan.cursor.rest.length + 1) scan).dropStaleKeys
    let scan := scan.closeBlocks (some scan.cursor.column)
    match scan.cursor.rest, bound with
    | [], _ => scan.finish
    | _, 0 => none
    | c :: rest, bound + 1 => run bound (← scan.readWord c rest)

end Scan

/-- The words of a text; none if it cannot be cut into words. -/
def tokens? (text : List Char) : Option (List Token) :=
  if text.all isAllowed then
    (Scan.run text.length (Scan.start text)).map fun scan => scan.words.reverse
  else none

end Stepwise.Yaml
