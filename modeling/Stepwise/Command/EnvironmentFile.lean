import Stepwise.Table
import Stepwise.Text.Blank
import Stepwise.Text.Letter

/-!
# Environment files

A file may set variables of the environment, a line each: a name, an equals sign and a value, perhaps after
the word "export", and comments. A value in quotes may go on over several lines. Outside of single quotes
a dollar sign stands before the name of a variable, whose value is filled in. A line that cannot be read
ends the reading; the lines before it count.
-/

set_option autoImplicit false

namespace Stepwise.EnvironmentFile

/-- Where in a line a reader is. -/
inductive Place where
  | text
  | escape
  | singleQuoted
  | singleQuotedEscape
  | doubleQuoted
  | doubleQuotedEscape
  | comment
  | blank
deriving DecidableEq, Repr

/-- The place after a character. -/
def Place.next (place : Place) (c : Char) : Place :=
  match place with
  | .blank =>
    match c with
    | '#' => .comment
    | '\\' => .escape
    | '"' => .doubleQuoted
    | '\'' => .singleQuoted
    | _ => .text
  | .text =>
    if Text.isBlank c && c != '\n' && c != '\r' then .blank
    else
      match c with
      | '\\' => .escape
      | '"' => .doubleQuoted
      | '\'' => .singleQuoted
      | _ => .text
  | .escape => .text
  | .doubleQuoted =>
    match c with
    | '\\' => .doubleQuotedEscape
    | '"' => .text
    | _ => .doubleQuoted
  | .doubleQuotedEscape => .doubleQuoted
  | .singleQuoted =>
    match c with
    | '\\' => .singleQuotedEscape
    | '\'' => .text
    | _ => .singleQuoted
  | .singleQuotedEscape => .singleQuoted
  | .comment => .comment

/-- The part of a line before a comment, and the place at its end. -/
def scan (place : Place) : List Char → List Char × Place
  | [] => ([], place)
  | c :: rest =>
    match place.next c with
    | .comment => ([], .comment)
    | place =>
      let (before, last) := scan place rest
      (c :: before, last)

/-- The lines of a text, each with the character that ends it. -/
def physicalLines : List Char → List (List Char)
  | [] => []
  | c :: rest =>
    match c, physicalLines rest with
    | '\n', lines => ['\n'] :: lines
    | c, [] => [[c]]
    | c, line :: lines => (c :: line) :: lines

/-- A line without the characters that end it. -/
def withoutEnd (line : List Char) : List Char :=
  match line.reverse with
  | '\n' :: '\r' :: rest => rest.reverse
  | '\n' :: rest => rest.reverse
  | _ => line

/-- The lines that are read one by one: a line whose quotes are open goes on. None stands for a line
that never ends. -/
def logicalLines (place : Place) (begun : List Char) : List (List Char) → List (Option (List Char))
  | [] => if place = .text then [] else [none]
  | line :: rest =>
    if (Text.trimStart (begun ++ line)).head? == some '#' then some [] :: logicalLines .text [] rest
    else
      match scan place line with
      | (_, .text) => some (withoutEnd (begun ++ line)) :: logicalLines .text [] rest
      | (before, .comment) => some (begun ++ before) :: logicalLines .text [] rest
      | (_, place) => logicalLines place (begun ++ line) rest

/-- A name that is being read after a dollar sign: bare, or in braces. -/
inductive Name where
  | bare (letters : List Char)
  | braced (letters : List Char)
deriving DecidableEq, Repr

/-- A value that is being read. Characters are kept last first. -/
structure Draft where
  value : List Char
  singleQuoted : Bool
  doubleQuoted : Bool
  escaped : Bool
  /-- Only a comment may follow. -/
  ended : Bool
  name : Option Name
deriving DecidableEq, Repr

/-- The value of a variable; nothing if it is not set. -/
def valueOf (environment : Table String) (name : List Char) : List Char :=
  ((Table.get? environment (String.ofList name.reverse)).getD "").toList

/-- Adds a character to a value. -/
def Draft.add (draft : Draft) (c : Char) : Draft := { draft with value := c :: draft.value }

/-- Fills in the value of a variable. -/
def Draft.fill (environment : Table String) (draft : Draft) (name : List Char) : Draft :=
  { draft with value := (valueOf environment name).reverse ++ draft.value, name := none }

/-- Reads a character after a dollar sign. -/
def Draft.readName (environment : Table String) (draft : Draft) (name : Name) (c : Char) : Draft :=
  match name with
  | .bare letters =>
    if Text.isLetter c then { draft with name := some (.bare (c :: letters)) }
    else if c == '\x7b' && letters.isEmpty then { draft with name := some (.braced []) }
    else
      let filled := draft.fill environment letters
      if c == '$' then { filled with name := some (.bare []) } else filled.add c
  | .braced letters =>
    if Text.isLetter c || c != '\x7d' then { draft with name := some (.braced (c :: letters)) }
    else draft.fill environment letters

/-- Reads a character after a backslash. -/
def Draft.readEscaped (draft : Draft) (c : Char) : Option Draft :=
  let draft := { draft with escaped := false }
  if "\\'\"$ ".toList.contains c then some (draft.add c)
  else if c == 'n' then some (draft.add '\n')
  else none

/-- Reads a character of a value. -/
def Draft.read (environment : Table String) (draft : Draft) (c : Char) : Option Draft :=
  if draft.escaped then draft.readEscaped c
  else if draft.singleQuoted then
    some (if c == '\'' then { draft with singleQuoted := false } else draft.add c)
  else
    match draft.name with
    | some name => some (draft.readName environment name c)
    | none =>
      if c == '$' then some { draft with name := some (.bare []) }
      else if c == '\\' then some { draft with escaped := true }
      else if draft.doubleQuoted then
        some (if c == '"' then { draft with doubleQuoted := false } else draft.add c)
      else if c == '\'' then some { draft with singleQuoted := true }
      else if c == '"' then some { draft with doubleQuoted := true }
      else if c == ' ' || c == '\t' then some { draft with ended := true }
      else some (draft.add c)

/-- Reads a value from its characters. -/
def readValue? (environment : Table String) (draft : Draft) : List Char → Option String
  | [] =>
    match draft.singleQuoted || draft.doubleQuoted, draft.name with
    | true, _ => none
    | false, some (.braced _) => none
    | false, some (.bare letters) =>
      some (String.ofList (draft.fill environment letters).value.reverse)
    | false, none => some (String.ofList draft.value.reverse)
  | c :: rest =>
    if draft.ended then
      if c == ' ' || c == '\t' then readValue? environment draft rest
      else if c == '#' then some (String.ofList draft.value.reverse)
      else none
    else (draft.read environment c).bind fun draft => readValue? environment draft rest

/-- The value at the start of which nothing is read. -/
def Draft.start : Draft := ⟨[], false, false, false, false, none⟩

/-- The name that a text starts with, and what follows it after blanks. -/
def nameOf? (text : List Char) : Option (List Char × List Char) :=
  match text with
  | [] => none
  | c :: _ =>
    if c.isAlpha || c == '_' then
      let inName (c : Char) : Bool := c.isAlphanum || c == '_' || c == '.'
      some (text.takeWhile inName, Text.trimStart (text.dropWhile inName))
    else none

/-- What follows an equals sign, without the blanks before it. -/
def afterEquals? (text : List Char) : Option (List Char) :=
  match text with
  | '=' :: rest => some (Text.trimStart rest)
  | _ => none

/-- The variable that a line sets and the text of its value. -/
def split? (text : List Char) : Option (List Char × List Char) := do
  let (name, rest) ← nameOf? text
  match afterEquals? rest with
  | some value => some (name, value)
  | none =>
    if name = "export".toList then
      let (name, rest) ← nameOf? rest
      some (name, ← afterEquals? rest)
    else none

/-- What a line sets, if anything; none if it cannot be read. -/
def readLine? (environment : Table String) (line : List Char) : Option (Option (String × String)) :=
  match Text.trim line with
  | [] => some none
  | '#' :: _ => some none
  | text => do
    let (name, value) ← split? text
    match value with
    | [] => some (some (String.ofList name, ""))
    | '#' :: _ => some (some (String.ofList name, ""))
    | _ => (readValue? environment Draft.start value).map fun value => some (String.ofList name, value)

/-- Adds what some lines set to an environment. Variables that are set stay as they are. -/
def extendBy (environment : Table String) : List (Option (List Char)) → Table String
  | [] => environment
  | none :: _ => environment
  | some line :: rest =>
    match readLine? environment line with
    | none => environment
    | some none => extendBy environment rest
    | some (some (name, value)) =>
      extendBy
        (if Table.contains environment name then environment else Table.put environment name value) rest

/-- Adds what the text of an environment file sets to an environment. -/
def extend (environment : Table String) (text : String) : Table String :=
  let plain := match text.toList with
    | '\ufeff' :: rest => rest
    | text => text
  extendBy environment (logicalLines .text [] (physicalLines plain))

end Stepwise.EnvironmentFile
