import Stepwise.Text.Split
import Stepwise.Text.Blank

/-!
# Templates

A template is a text with holes, each written `$` and a pair of braces around its source. Scanning
never fails: what is no hole stays literal text, and the texts of the segments together are the text
that was scanned.
-/

set_option autoImplicit false

namespace Stepwise.Template

/-- A piece of a template: text that stands for itself, or a hole with its source. -/
inductive Segment where
  | literal (text : List Char)
  | hole (source : List Char)
deriving DecidableEq, Repr

/-- What a hole starts with. -/
def opening : List Char := ['$', '{']

/-- The raw text of a segment, as it stands in the template. That of a hole is fixed by its source: scanning
takes a hole from its opening to the brace that closes it, and the source is what lies between. -/
def Segment.text : Segment → List Char
  | .literal text => text
  | .hole source => opening ++ source ++ ['}']

/-- A quote character. -/
def isQuote (c : Char) : Bool := c == '\'' || c == '"'

/-- The text before and after the brace that closes a hole. Braces inside quotes do not count, and
braces that open inside the hole close first. -/
def matchingBrace (quote : Option Char) (depth : Nat) : List Char → Option (List Char × List Char)
  | [] => none
  | c :: rest =>
    let skip (quote : Option Char) (depth : Nat) :=
      (matchingBrace quote depth rest).map fun found => (c :: found.1, found.2)
    match quote with
    | some q => if c = q then skip none depth else skip (some q) depth
    | none =>
      if isQuote c then skip (some c) depth
      else if c = '{' then skip none (depth + 1)
      else if c = '}' then
        if depth = 0 then some ([], rest) else skip none (depth - 1)
      else skip none depth

/-- The source of a hole and the text after it. When no brace matches, as after an open quote, the
first brace closes the hole. -/
def closeHole (body : List Char) : Option (List Char × List Char) :=
  (matchingBrace none 0 body).or (Text.breakAt ['}'] body)

/-- The scanner stops at a closing brace and loses no character on either side of it. -/
theorem matchingBrace_eq_some {quote : Option Char} {depth : Nat} {body source rest : List Char}
    (h : matchingBrace quote depth body = some (source, rest)) : body = source ++ '}' :: rest := by
  induction body generalizing quote depth source with
  | nil => simp [matchingBrace] at h
  | cons c body ih =>
    have skipped : ∀ {q : Option Char} {d : Nat},
        (matchingBrace q d body).map (fun found => (c :: found.1, found.2)) = some (source, rest) →
        c :: body = source ++ '}' :: rest := by
      intro q d h
      obtain ⟨⟨s, r⟩, found, eq⟩ := Option.map_eq_some_iff.mp h
      simp only [Prod.mk.injEq] at eq
      obtain ⟨rfl, rfl⟩ := eq
      simp [ih found]
    unfold matchingBrace at h
    simp only at h
    split at h
    · split at h <;> exact skipped h
    · split at h
      · exact skipped h
      · split at h
        · exact skipped h
        · split at h
          · rename_i closes
            split at h
            · simp only [Option.some.injEq, Prod.mk.injEq] at h
              simp [← h.1, ← h.2, closes]
            · exact skipped h
          · exact skipped h

/-- A closed hole is its source, a brace and what follows. -/
theorem closeHole_eq_some {body source rest : List Char} (h : closeHole body = some (source, rest)) :
    body = source ++ '}' :: rest := by
  unfold closeHole at h
  cases found : matchingBrace none 0 body with
  | some pair =>
    rw [found] at h
    simp only [Option.some_or, Option.some.injEq] at h
    subst h
    exact matchingBrace_eq_some found
  | none =>
    rw [found] at h
    simp only [Option.none_or] at h
    simpa using Text.breakAt_eq_some h

/-- Literal text as a segment, if there is any. -/
def literally (text : List Char) : List Segment := if text.isEmpty then [] else [.literal text]

/-- The segments of a text, after literal text that was already passed. An opening without closing
brace, or with only blanks inside, is literal text. -/
def scan (passed text : List Char) : List Segment :=
  match _found : Text.breakAt opening text with
  | none => literally (passed ++ text)
  | some (before, body) =>
    match _closed : closeHole body with
    | none => literally (passed ++ text)
    | some (source, rest) =>
      if source.all Text.isBlank then
        scan (passed ++ before ++ (Segment.hole source).text) rest
      else literally (passed ++ before) ++ .hole source :: scan [] rest
termination_by text.length
decreasing_by
  all_goals
    rw [Text.breakAt_eq_some _found, closeHole_eq_some _closed]
    simp only [List.length_append, List.length_cons]
    omega

/-- The segments of a template. -/
def parse (text : List Char) : List Segment := scan [] text

/-- Whether a template has a hole. -/
def hasHoles (segments : List Segment) : Bool := segments.any fun
  | .hole _ => true
  | .literal _ => false

end Stepwise.Template
