import Stepwise.Proofs.Guard.Measuring

/-!
# Which texts are paths

A text is refused for one of three reasons: nothing stands between its blanks, it names no namespace, or it is
spelled wrongly. Every part has to be well formed before the namespace is looked at, and a namespace by itself is
no path. The same segments can be written in several ways, each behind a point or in brackets: these texts are
all read as the same path, and so is the text of a path.
-/

set_option autoImplicit false

namespace Stepwise.Path

open Stepwise.Text

variable {text : List Char} {words : List String} {word shown : String}

/-! ## Refusals -/

/-- A text spells one list of words at most. -/
theorem Spells.unique (nonempty : text ≠ []) {others : List String} (spells : Spells text words)
    (too : Spells text others) : words = others := by
  rw [← parts?_splitOn_iff nonempty] at spells too
  exact Option.some.inj (spells.symm.trans too)

/-- Some word is spelled by every text. -/
theorem not_spells_nil (nonempty : text ≠ []) : ¬ Spells text [] := by
  rintro ⟨parts, rfl, nothing⟩
  rw [flatMap_words_eq_nil nothing] at nonempty
  exact nonempty rfl

/-- The error for an empty expression is given for blank texts and no others. -/
theorem parse_eq_empty_iff : parse text = .error .emptyExpression ↔ trim text = [] := by
  constructor
  · intro refused
    simp only [parse] at refused
    split at refused
    · rename_i blank
      exact List.isEmpty_iff.mp blank
    · split at refused
      · cases refused
      · cases refused
      · split at refused
        · cases refused
        · split at refused <;> cases refused
  · intro blank
    simp [parse, blank]

/-- The error for an unknown namespace is given for texts that spell words, the first of them no
namespace. -/
theorem parse_eq_unknown_iff : parse text = .error (.unknownNamespace word) ↔
    Namespace.ofText? word = none ∧ ∃ rest, Spells (trim text) (word :: rest) := by
  constructor
  · intro refused
    simp only [parse] at refused
    split at refused
    · cases refused
    · rename_i nonempty
      split at refused
      · cases refused
      · cases refused
      · rename_i head rest segmented
        split at refused
        · rename_i unknown
          cases refused
          exact ⟨unknown, rest, (parts?_splitOn_iff (by simpa using nonempty)).mp segmented⟩
        · split at refused <;> cases refused
  · rintro ⟨unknown, rest, spells⟩
    have segmented := (parts?_splitOn_iff spells.nonempty).mpr spells
    have filled : (trim text).isEmpty = false := by simpa using spells.nonempty
    simp [parse, filled, segmented, unknown]

/-- What is neither blank nor a path, and does not name an unknown namespace, is spelled wrongly, or is a
namespace by itself. -/
theorem parse_eq_invalid_iff : parse text = .error (.invalidPath shown) ↔
    shown = String.ofList (trim text) ∧ trim text ≠ [] ∧
      ∀ words, Spells (trim text) words → ∃ root : Namespace, words = [root.text] := by
  constructor
  · intro refused
    simp only [parse] at refused
    split at refused
    · cases refused
    · rename_i filled
      have nonempty : trim text ≠ [] := by simpa using filled
      split at refused
      · rename_i unsegmented
        cases refused
        refine ⟨rfl, nonempty, ?_⟩
        intro words spells
        rw [← parts?_splitOn_iff nonempty, unsegmented] at spells
        cases spells
      · rename_i nothing
        exact absurd ((parts?_splitOn_iff nonempty).mp nothing) (not_spells_nil nonempty)
      · rename_i head rest segmented
        split at refused
        · cases refused
        · rename_i root named
          split at refused
          · cases refused
          · rename_i bare
            cases refused
            refine ⟨rfl, nonempty, ?_⟩
            intro words spells
            refine ⟨root, ?_⟩
            rw [spells.unique nonempty ((parts?_splitOn_iff nonempty).mp segmented), of_not_not bare,
              Namespace.text_of_ofText? named]
  · rintro ⟨rfl, nonempty, bare⟩
    have filled : (trim text).isEmpty = false := by simpa using nonempty
    cases segmented : parts? ((trim text).splitOn '.') with
    | none => simp [parse, filled, segmented]
    | some words =>
      obtain ⟨root, rfl⟩ := bare words ((parts?_splitOn_iff nonempty).mp segmented)
      simp [parse, filled, segmented, Namespace.ofText?_text]

/-- No path is read as an open quote, which only literals are. -/
theorem parse_ne_unterminated : parse text ≠ .error (.unterminatedQuote shown) := by
  intro refused
  simp only [parse] at refused
  split at refused
  · cases refused
  · split at refused
    · cases refused
    · cases refused
    · split at refused
      · cases refused
      · split at refused <;> cases refused

/-! ## Ways to write a path -/

/-- How a segment stands below what is before it: behind a point, or in brackets, with blanks around it. -/
inductive Style where
  | pointed
  | bracketed (before after : List Char) (blankBefore : ∀ c ∈ before, isBlank c = true)
      (blankAfter : ∀ c ∈ after, isBlank c = true)

/-- The text of a segment in a style. -/
def Style.write (segment : String) : Style → List Char
  | .pointed => '.' :: segment.toList
  | .bracketed before after _ _ => Path.bracketed (before ++ segment.toList ++ after)

/-- A segment that can be written in both styles. -/
structure IsSolid (segment : String) : Prop where
  nonempty : segment ≠ ""
  solid : ∀ c ∈ segment.toList, isBlank c = false
  unmarked : ∀ c ∈ segment.toList, c ∉ ['.', '[', ']']

/-- Segments, each in its style, one behind the other. -/
def written (marks : List (String × Style)) : List Char := marks.flatMap fun mark => mark.2.write mark.1

/-- A first part is followed by a point and the other parts. -/
theorem joined_cons (part : Part) {others : List Part} (several : others ≠ []) :
    joined (part :: others) = part.text ++ '.' :: joined others := by
  obtain ⟨other, rest, rfl⟩ := List.exists_cons_of_ne_nil several
  simp [joined]

/-- A part with one more text in brackets behind it. -/
def Part.add (part : Part) (inside : List Char) (isIndex : IsIndex inside) (unpointed : '.' ∉ inside) : Part where
  name := part.name
  insides := part.insides ++ [inside]
  isName := part.isName
  isIndex := List.forall_mem_append.mpr ⟨part.isIndex, List.forall_mem_singleton.mpr isIndex⟩
  unpointed := List.forall_mem_append.mpr ⟨part.unpointed, List.forall_mem_singleton.mpr unpointed⟩

/-- A part with one index more is written with that index in brackets behind it. -/
theorem Part.text_add (part : Part) {inside : List Char} (isIndex : IsIndex inside) (unpointed : '.' ∉ inside) :
    (part.add inside isIndex unpointed).text = part.text ++ Path.bracketed inside := by
  simp [Part.text, Part.add]

/-- That index is the part's last word. -/
theorem Part.words_add (part : Part) {inside : List Char} (isIndex : IsIndex inside) (unpointed : '.' ∉ inside) :
    (part.add inside isIndex unpointed).words = part.words ++ [index inside] := by
  simp [Part.words, Part.add]

namespace IsSolid

variable {segment : String} (isSolid : IsSolid segment)

include isSolid

/-- A plain segment is a name. -/
theorem isName : IsName segment.toList where
  nonempty := by simpa using isSolid.nonempty
  solid := isSolid.solid
  unopened member := isSolid.unmarked '[' member (by simp)
  unpointed member := isSolid.unmarked '.' member (by simp)

/-- Trimming leaves a plain segment as it is. -/
theorem trim_eq : trim segment.toList = segment.toList :=
  trim_eq_self (fun c begins => isSolid.solid c (List.mem_of_mem_head? begins))
    fun c ends => isSolid.solid c (List.mem_of_mem_getLast? ends)

variable {before after : List Char} (blankBefore : ∀ c ∈ before, isBlank c = true)
  (blankAfter : ∀ c ∈ after, isBlank c = true)

include blankBefore blankAfter

/-- A plain segment in brackets stands for itself, with or without blanks around it. -/
theorem index_pad : index (before ++ segment.toList ++ after) = segment := by
  rw [index, trim_pad blankBefore blankAfter, isSolid.trim_eq, String.ofList_toList]

/-- Padded with blanks it may stand in brackets, and has no point in it. -/
theorem isIndex_pad : IsIndex (before ++ segment.toList ++ after) ∧ '.' ∉ before ++ segment.toList ++ after := by
  have absent : ∀ c ∈ ['.', '[', ']'], isBlank c = false → c ∉ before ++ segment.toList ++ after := by
    intro c mark visible member
    simp only [List.mem_append] at member
    rcases member with (inFront | inside) | behind
    · exact absurd (blankBefore c inFront) (by simp [visible])
    · exact isSolid.unmarked c inside mark
    · exact absurd (blankAfter c behind) (by simp [visible])
  refine ⟨⟨absent ']' (by simp) (by decide), ?_⟩, absent '.' (by simp) (by decide)⟩
  rw [trim_pad blankBefore blankAfter, isSolid.trim_eq]
  exact isSolid.isName.nonempty

end IsSolid

variable {marks : List (String × Style)}

/-- What is written behind a part goes on with that part in brackets, and begins a new one at a point. -/
theorem spells_append_written (part : Part) (solid : ∀ mark ∈ marks, IsSolid mark.1) :
    Spells (part.text ++ written marks) (part.words ++ marks.map Prod.fst) := by
  induction marks generalizing part with
  | nil => exact ⟨[part], by simp [joined, written], by simp⟩
  | cons mark rest ih =>
    obtain ⟨segment, style⟩ := mark
    obtain ⟨here, later⟩ := List.forall_mem_cons.mp solid
    cases style with
    | pointed =>
      obtain ⟨parts, text_eq, words_eq⟩ := ih (.ofName _ here.isName) later
      have several : parts ≠ [] := by
        rintro rfl
        simp [Part.words] at words_eq
      refine ⟨part :: parts, ?_, ?_⟩
      · rw [joined_cons part several, ← text_eq]
        simp [written, Style.write, Part.text, Part.ofName]
      · rw [List.flatMap_cons, words_eq]
        simp [Part.words, Part.ofName]
    | bracketed before after blankBefore blankAfter =>
      obtain ⟨isIndex, unpointed⟩ := here.isIndex_pad blankBefore blankAfter
      have added := ih (part.add _ isIndex unpointed) later
      rw [Part.text_add, Part.words_add, here.index_pad blankBefore blankAfter] at added
      simpa [written, Style.write] using added

/-- Nothing that is written in either style ends with a blank. -/
theorem not_blank_of_getLast? {front : List Char} (ends : ∀ c ∈ front.getLast?, isBlank c = false)
    (solid : ∀ mark ∈ marks, IsSolid mark.1) : ∀ c ∈ (front ++ written marks).getLast?, isBlank c = false := by
  induction marks generalizing front with
  | nil => simpa [written] using ends
  | cons mark rest ih =>
    obtain ⟨segment, style⟩ := mark
    obtain ⟨here, later⟩ := List.forall_mem_cons.mp solid
    have goesOn : front ++ written ((segment, style) :: rest) =
        front ++ style.write segment ++ written rest := by
      simp [written]
    rw [goesOn]
    apply ih _ later
    intro c last
    cases style with
    | pointed =>
      rw [Style.write, List.getLast?_append_of_ne_nil _ (List.cons_ne_nil _ _),
        List.getLast?_cons_of_ne_nil here.isName.nonempty] at last
      exact here.solid c (List.mem_of_mem_getLast? last)
    | bracketed =>
      have isBracket : c = ']' := by
        rw [Style.write, Path.bracketed, ← List.cons_append, ← List.append_assoc, List.getLast?_concat] at last
        exact (Option.some.inj last).symm
      subst isBracket
      decide

variable {path : Path} (solid : ∀ segment ∈ path.segments, IsSolid segment)

include solid

/-- A path is read from its segments in any styles. -/
theorem parse_spelled (same : marks.map Prod.fst = path.segments) :
    parse (path.root.text.toList ++ written marks) = .ok path := by
  have each : ∀ mark ∈ marks, IsSolid mark.1 := by
    intro mark member
    apply solid
    rw [← same]
    exact List.mem_map_of_mem member
  have isName := IsName.root path.root
  have kept : trim (path.root.text.toList ++ written marks) = path.root.text.toList ++ written marks := by
    apply trim_eq_self
    · intro c begins
      rw [List.head?_append_of_ne_nil _ isName.nonempty] at begins
      exact isName.solid c (List.mem_of_mem_head? begins)
    · apply not_blank_of_getLast? _ each
      intro c ends
      exact isName.solid c (List.mem_of_mem_getLast? ends)
  have spells := spells_append_written (.ofName _ isName) each
  rw [parse_eq_ok_iff, kept]
  simpa [Spells, Part.text, Part.words, Part.ofName, same] using spells

/-- The text of a path is its segments behind points. -/
theorem parse_text : parse path.text.toList = .ok path := by
  have same : (path.segments.map fun segment => (segment, Style.pointed)).map Prod.fst = path.segments := by
    simp [Function.comp_def]
  have pointed : path.text.toList =
      path.root.text.toList ++ written (path.segments.map fun segment => (segment, Style.pointed)) := by
    rw [Path.text, Guard.toList_intercalate, Guard.pointed, written, List.flatMap_map]
    rfl
  rw [pointed]
  exact parse_spelled solid same

omit solid

/-- What a reader of paths accepts, what it answers to all other texts, and which texts are one path. -/
structure ReadsPaths (read : List Char → Except TemplateError Path) : Prop where
  /-- A path is spelled, between blanks, as the word for its namespace and its segments. -/
  accepted : ∀ text path, read text = .ok path ↔ Spells (trim text) (path.root.text :: path.segments)
  blank : ∀ text, read text = .error .emptyExpression ↔ trim text = []
  /-- A text is well spelled, but begins with no word for a namespace. -/
  unknown : ∀ text word, read text = .error (.unknownNamespace word) ↔
    Namespace.ofText? word = none ∧ ∃ rest, Spells (trim text) (word :: rest)
  /-- A text is spelled wrongly, or as the word for a namespace and nothing else. -/
  invalid : ∀ text shown, read text = .error (.invalidPath shown) ↔
    shown = String.ofList (trim text) ∧ trim text ≠ [] ∧
      ∀ words, Spells (trim text) words → ∃ root : Namespace, words = [root.text]
  otherwise : ∀ text, (∃ path, read text = .ok path) ∨ read text = .error .emptyExpression ∨
    (∃ word, read text = .error (.unknownNamespace word)) ∨
      read text = .error (.invalidPath (String.ofList (trim text)))
  /-- Segments may be written behind points or in brackets, with any blanks inside. -/
  written : ∀ (path : Path) (marks : List (String × Style)), (∀ segment ∈ path.segments, IsSolid segment) →
    marks.map Prod.fst = path.segments → read (path.root.text.toList ++ written marks) = .ok path
  text : ∀ path : Path, (∀ segment ∈ path.segments, IsSolid segment) → read path.text.toList = .ok path

/-- Reading a path takes exactly what is spelled as one, in any of its spellings, and says of all other texts what
is wrong with them. -/
theorem parse_readsPaths : ReadsPaths parse where
  accepted _ _ := parse_eq_ok_iff
  blank _ := parse_eq_empty_iff
  unknown _ _ := parse_eq_unknown_iff
  invalid _ _ := parse_eq_invalid_iff
  otherwise text := by
    cases read : parse text with
    | ok path => exact .inl ⟨path, rfl⟩
    | error error =>
      cases error with
      | emptyExpression => exact .inr (.inl rfl)
      | unknownNamespace word => exact .inr (.inr (.inl ⟨word, rfl⟩))
      | invalidPath shown => rw [(parse_eq_invalid_iff.mp read).1]; simp
      | unterminatedQuote shown => exact absurd read parse_ne_unterminated
  written _ _ := parse_spelled
  text _ := parse_text

/-- Blanks stand around a path and in brackets, but points do not. -/
example : parse " vars[ rows ].0[name] ".toList = .ok ⟨.vars, ["rows", "0", "name"], by decide⟩ ∧
    parse "vars.rows[a.b]".toList = .error (.invalidPath "vars.rows[a.b]") ∧
    parse "rows[0]".toList = .error (.unknownNamespace "rows") := by decide +kernel

end Stepwise.Path
