import Stepwise.Template.Path
import Stepwise.Template.Segment

/-!
# Expressions

The source of a hole is a chain of alternatives with `||` between them: quoted texts, paths, and the
tokens that stand for the moment of evaluation. Anything else is foreign text that has no value.
-/

set_option autoImplicit false

namespace Stepwise.Template

/-- A value that is made when it is asked for: the time, the date, the milliseconds since the epoch, or
a fresh identifier. -/
inductive Token where
  | timestamp
  | date
  | epochMillis
  | uuid
deriving DecidableEq, Repr

/-- The text from which a time is recognised wherever it occurs. -/
def clockText : List Char := "new Date()".toList

/-- The token that a text spells. -/
def Token.ofText? (text : List Char) : Option Token :=
  match String.ofList (Text.trim text) with
  | "now" => some .timestamp
  | "new Date()" => some .timestamp
  | "new Date().toISOString()" => some .timestamp
  | "today" => some .date
  | "new Date().toISOString().split('T')[0]" => some .date
  | "timestamp_ms" => some .epochMillis
  | "Date.now()" => some .epochMillis
  | "uuid" => some .uuid
  | "crypto.randomUUID()" => some .uuid
  | _ => if Text.occursIn clockText text then some .timestamp else none

/-- One alternative of an expression. -/
inductive Alternative where
  | literal (text : String)
  | path (path : Path)
  | token (token : Token)
  | foreign (text : String)
deriving DecidableEq

/-- The alternatives of an expression, in order of preference. -/
abbrev Expression : Type := List Alternative

/-- Puts a character before the first of the pieces. -/
def extend (c : Char) : List (List Char) → List (List Char)
  | [] => [[c]]
  | piece :: rest => (c :: piece) :: rest

/-- Cuts a source at each `||` outside quotes, parentheses and brackets; none if a quote stays open. -/
def cut? (quote : Option Char) (depth : Nat) : List Char → Option (List (List Char))
  | [] => if quote.isSome then none else some [[]]
  | '|' :: '|' :: rest =>
    if quote.isNone && depth == 0 then (cut? none 0 rest).map ([] :: ·)
    else (cut? quote depth rest).map fun pieces => extend '|' (extend '|' pieces)
  | c :: rest =>
    let skip (quote : Option Char) (depth : Nat) := (cut? quote depth rest).map (extend c)
    match quote with
    | some q => if c = q then skip none depth else skip (some q) depth
    | none =>
      if isQuote c then skip (some c) depth
      else if c = '(' ∨ c = '[' then skip none (depth + 1)
      else if c = ')' ∨ c = ']' then skip none (depth - 1)
      else skip none depth

/-- Reads one alternative. -/
def Alternative.parse (source : List Char) : Except TemplateError Alternative :=
  let text := Text.trim source
  match text with
  | [] => .error .emptyExpression
  | c :: rest =>
    if isQuote c then
      if rest.getLast? = some c then .ok (.literal (String.ofList rest.dropLast))
      else .error (.unterminatedQuote (String.ofList text))
    else
      match Token.ofText? text with
      | some found => .ok (.token found)
      | none =>
        let head := text.takeWhile fun c => c != '.' && c != '['
        match Namespace.ofText? (String.ofList head) with
        | some _ => (Path.parse text).map Alternative.path
        | none => .ok (.foreign (String.ofList text))

/-- Reads an expression. -/
def Expression.parse (source : List Char) : Except TemplateError Expression :=
  match cut? none 0 source with
  | none => .error (.unterminatedQuote (String.ofList (Text.trim source)))
  | some pieces => pieces.mapM Alternative.parse

end Stepwise.Template
