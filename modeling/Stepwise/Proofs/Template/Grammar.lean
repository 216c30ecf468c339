import Mathlib.Data.List.Infix
import Stepwise.Proofs.Text.Cutting
import Stepwise.Template.Path

/-!
# The grammar of paths

A path is spelled as parts with points between them. A part is a name without blanks, and texts in brackets
behind it; the segments that it stands for are its name and the texts in its brackets, trimmed. Reading a path
takes exactly the texts of this form whose first segment is the word for a namespace, with more segments below
it.
-/

set_option autoImplicit false

namespace Stepwise.Path

open Stepwise.Text

/-! ## Texts in brackets -/

/-- A text in brackets. -/
def bracketed (inside : List Char) : List Char := '[' :: (inside ++ [']'])

/-- A text that stands for a segment if it is put in brackets. -/
def IsIndex (inside : List Char) : Prop := ']' ∉ inside ∧ trim inside ≠ []

/-- The segment that a text in brackets stands for. -/
def index (inside : List Char) : String := String.ofList (trim inside)

/-- Bracketed texts are read as their segments, in order. -/
theorem indices?_bracketed {insides : List (List Char)} (each : ∀ inside ∈ insides, IsIndex inside) :
    indices? (insides.flatMap bracketed) = some (insides.map index) := by
  induction insides with
  | nil => rw [List.flatMap_nil, indices?, List.map_nil]
  | cons inside rest ih =>
    obtain ⟨unclosed, filled⟩ := each inside List.mem_cons_self
    have later := ih fun other member => each other (List.mem_cons_of_mem inside member)
    have apart : ¬ [']'] <:+: inside ++ [']'].dropLast := by
      simpa [List.singleton_infix_iff] using unclosed
    have found := breakAt_append (List.cons_ne_nil _ _) apart (rest.flatMap bracketed)
    have kept : (trim inside).isEmpty = false := by simpa using filled
    have whole : (inside :: rest).flatMap bracketed = '[' :: (inside ++ [']'] ++ rest.flatMap bracketed) := by
      simp [bracketed]
    rw [whole, indices?, if_pos rfl]
    split
    · rename_i missing
      rw [found] at missing
      cases missing
    · rename_i here
      rw [found] at here
      cases here
      simp [kept, later, index]

/-- What is read as indices is texts in brackets, one behind the other. -/
theorem exists_bracketed_of_indices? {tail : List Char} {words : List String}
    (read : indices? tail = some words) : ∃ insides : List (List Char),
      (∀ inside ∈ insides, IsIndex inside) ∧ tail = insides.flatMap bracketed ∧ words = insides.map index := by
  fun_induction indices? tail generalizing words with
  | case1 =>
    cases read
    exact ⟨[], List.forall_mem_nil _, rfl, rfl⟩
  | case2 => cases read
  | case3 => cases read
  | case4 rest inside next found segment filled =>
    rename_i ih
    obtain ⟨others, later, rfl⟩ := Option.map_eq_some_iff.mp read
    obtain ⟨insides, each, rfl, rfl⟩ := ih later
    have unclosed : ']' ∉ inside := not_mem_of_breakAt found
    refine ⟨inside :: insides, List.forall_mem_cons.mpr ⟨⟨unclosed, by simpa using filled⟩, each⟩, ?_, rfl⟩
    rw [breakAt_eq_some found]
    simp [bracketed]
  | case5 => cases read

/-! ## Parts -/

/-- A name that a part may have. -/
structure IsName (name : List Char) : Prop where
  nonempty : name ≠ []
  solid : ∀ c ∈ name, isBlank c = false
  unopened : '[' ∉ name
  unpointed : '.' ∉ name

/-- A text tested to be solid has no blank in it. -/
theorem not_blank_of_all {text : List Char} (solid : (text.all fun c => !isBlank c) = true) :
    ∀ c ∈ text, isBlank c = false := by
  simpa using solid

/-- A namespace is a name. -/
theorem IsName.root (root : Namespace) : IsName root.text.toList := by
  cases root <;> exact ⟨by decide, not_blank_of_all (by decide), by decide, by decide⟩

/-- A part between points: a name, and the texts in brackets behind it. -/
structure Part where
  name : List Char
  insides : List (List Char)
  isName : IsName name
  isIndex : ∀ inside ∈ insides, IsIndex inside
  unpointed : ∀ inside ∈ insides, '.' ∉ inside

namespace Part

/-- The part that is a name alone. -/
def ofName (name : List Char) (isName : IsName name) : Part :=
  ⟨name, [], isName, List.forall_mem_nil _, List.forall_mem_nil _⟩

variable (part : Part)

/-- The text of a part. -/
def text : List Char := part.name ++ part.insides.flatMap bracketed

/-- The segments that a part stands for. -/
def words : List String := String.ofList part.name :: part.insides.map index

/-- No part has a point in its text. -/
theorem point_not_mem_text : '.' ∉ part.text := by
  intro member
  rcases List.mem_append.mp member with inName | behind
  · exact part.isName.unpointed inName
  · obtain ⟨inside, among, here⟩ := List.mem_flatMap.mp behind
    have within : '.' ∈ inside := by simpa [bracketed] using here
    exact part.unpointed inside among within

end Part

/-- A text without a point is read as a part exactly if it is the text of one. -/
theorem part?_eq_some_iff {text : List Char} (unpointed : '.' ∉ text) {words : List String} :
    part? text = some words ↔ ∃ part : Part, part.text = text ∧ part.words = words := by
  constructor
  · intro read
    unfold part? at read
    simp only [Option.ite_none_left_eq_some, Option.map_eq_some_iff, Bool.or_eq_true, not_or] at read
    obtain ⟨⟨nonempty, solid⟩, others, indexed, rfl⟩ := read
    obtain ⟨insides, each, tail_eq, rfl⟩ := exists_bracketed_of_indices? indexed
    have whole : text.takeWhile (· != '[') ++ insides.flatMap bracketed = text := by
      rw [← tail_eq, List.takeWhile_append_dropWhile]
    rw [← whole, List.mem_append, not_or] at unpointed
    have isName : IsName (text.takeWhile (· != '[')) := by
      refine ⟨by simpa using nonempty, by simpa using solid, fun opened => ?_, unpointed.1⟩
      simpa using List.mem_takeWhile_imp opened
    have inner : ∀ inside ∈ insides, '.' ∉ inside := fun inside among member =>
      unpointed.2 (List.mem_flatMap.mpr ⟨inside, among, by simp [bracketed, member]⟩)
    exact ⟨⟨_, insides, isName, each, inner⟩, whole, rfl⟩
  · rintro ⟨part, rfl, rfl⟩
    have named : ∀ c ∈ part.name, (c != '[') = true := by
      intro c member
      have other : c ≠ '[' := fun same => part.isName.unopened (same ▸ member)
      simpa using other
    have tail : (part.insides.flatMap bracketed).takeWhile (· != '[') = [] ∧
        (part.insides.flatMap bracketed).dropWhile (· != '[') = part.insides.flatMap bracketed := by
      cases part.insides <;> simp [bracketed]
    have nonempty : part.name.isEmpty = false := by simpa using part.isName.nonempty
    have solid : part.name.any isBlank = false := by simpa using part.isName.solid
    rw [part?, Part.text, List.takeWhile_append_of_pos named, List.dropWhile_append_of_pos named, tail.1,
      tail.2, List.append_nil, indices?_bracketed part.isIndex]
    simp [nonempty, solid, Part.words]

/-- Texts without points are read as parts exactly if they are the texts of parts. -/
theorem parts?_eq_some_iff {texts : List (List Char)} (unpointed : ∀ text ∈ texts, '.' ∉ text)
    {words : List String} : parts? texts = some words ↔
      ∃ parts : List Part, parts.map Part.text = texts ∧ parts.flatMap Part.words = words := by
  induction texts generalizing words with
  | nil => simp [parts?, eq_comm]
  | cons text rest ih =>
    obtain ⟨here, later⟩ := List.forall_mem_cons.mp unpointed
    constructor
    · intro read
      rw [parts?] at read
      split at read
      · rename_i segments others first following
        cases read
        obtain ⟨part, rfl, rfl⟩ := (part?_eq_some_iff here).mp first
        obtain ⟨parts, rfl, rfl⟩ := (ih later).mp following
        exact ⟨part :: parts, rfl, List.flatMap_cons⟩
      · cases read
    · rintro ⟨parts, texts_eq, rfl⟩
      obtain ⟨part, parts, rfl, rfl, rest_eq⟩ := List.map_eq_cons_iff.mp texts_eq
      have first := (part?_eq_some_iff here).mpr ⟨part, rfl, rfl⟩
      have following := (ih later).mpr ⟨parts, rest_eq, rfl⟩
      rw [parts?, first, following]
      rfl

/-! ## Paths -/

/-- The text of parts with points between them. -/
def joined (parts : List Part) : List Char := ['.'].intercalate (parts.map Part.text)

/-- What is cut at the points has no point left. -/
theorem unpointed_of_mem_splitOn {text piece : List Char} (member : piece ∈ text.splitOn '.') :
    '.' ∉ piece := by
  induction text generalizing piece with
  | nil =>
    rw [List.splitOn_nil, List.mem_singleton] at member
    simp [member]
  | cons c text ih =>
    rw [List.splitOn_cons_eq_if_modifyHead] at member
    split at member
    · rcases List.mem_cons.mp member with rfl | later
      · exact List.not_mem_nil
      · exact ih later
    · rename_i other
      obtain ⟨first, rest, cut⟩ := List.exists_cons_of_ne_nil (List.splitOn_ne_nil '.' text)
      rw [cut, List.modifyHead_cons] at member
      rcases List.mem_cons.mp member with rfl | later
      · have unpointed : '.' ∉ first := ih (by simp [cut])
        have distinct : c ≠ '.' := by simpa using other
        simp [distinct.symm, unpointed]
      · exact ih (by simp [cut, later])

/-- A text spells words if it is parts with points between them, and the words are what the parts stand for. -/
def Spells (text : List Char) (words : List String) : Prop :=
  ∃ parts : List Part, text = joined parts ∧ parts.flatMap Part.words = words

/-- A text that is cut at its points is read as words just when it spells them. -/
theorem parts?_splitOn_iff {text : List Char} (nonempty : text ≠ []) {words : List String} :
    parts? (text.splitOn '.') = some words ↔ Spells text words := by
  rw [parts?_eq_some_iff fun _ => unpointed_of_mem_splitOn]
  constructor
  · rintro ⟨parts, texts_eq, words_eq⟩
    exact ⟨parts, by rw [joined, texts_eq, List.intercalate_splitOn], words_eq⟩
  · rintro ⟨parts, rfl, words_eq⟩
    have several : parts.map Part.text ≠ [] := by
      intro none
      exact nonempty (by rw [joined, none, List.intercalate_nil])
    refine ⟨parts, (List.splitOn_intercalate '.' ?_ several).symm, words_eq⟩
    intro piece member
    obtain ⟨part, -, rfl⟩ := List.mem_map.mp member
    exact part.point_not_mem_text

/-- A text that spells words is not empty. -/
theorem Spells.nonempty {text : List Char} {word : String} {rest : List String}
    (spells : Spells text (word :: rest)) : text ≠ [] := by
  obtain ⟨parts, rfl, words_eq⟩ := spells
  cases parts with
  | nil => cases words_eq
  | cons part others =>
    intro empty
    have nothing : part.text = [] := by
      cases others with
      | nil => simpa [joined] using empty
      | cons => simp [joined] at empty
    exact part.isName.nonempty (List.append_eq_nil_iff.mp nothing).1

/-- A text is read as a path exactly if it is spelled, between blanks, as parts whose segments begin with the
word for a namespace; the others are the segments of the path. -/
theorem parse_eq_ok_iff {text : List Char} {path : Path} : parse text = .ok path ↔
    ∃ parts : List Part, trim text = joined parts ∧
      parts.flatMap Part.words = path.root.text :: path.segments := by
  constructor
  · intro read
    simp only [parse] at read
    split at read
    · cases read
    · rename_i nonempty
      split at read
      · cases read
      · cases read
      · rename_i head rest segmented
        obtain ⟨parts, spelled, words_eq⟩ := (parts?_splitOn_iff (by simpa using nonempty)).mp segmented
        split at read
        · cases read
        · rename_i root named
          split at read
          · cases read
            exact ⟨parts, spelled, by rw [words_eq, Namespace.text_of_ofText? named]⟩
          · cases read
  · intro spells
    have nonempty : trim text ≠ [] := Spells.nonempty spells
    have segmented := (parts?_splitOn_iff nonempty).mpr spells
    have filled : (trim text).isEmpty = false := by simpa using nonempty
    rw [parse]
    simp only [filled, segmented, Namespace.ofText?_text, path.nonempty, Bool.false_eq_true, if_false, ne_eq,
      not_false_eq_true, dite_true]

/-! ## Paths of one segment -/

/-- Every part stands for a word at least. -/
theorem flatMap_words_eq_nil {parts : List Part} (nothing : parts.flatMap Part.words = []) : parts = [] := by
  cases parts with
  | nil => rfl
  | cons part rest =>
    rw [List.flatMap_cons, Part.words] at nothing
    cases nothing

/-- Parts that stand for one segment are one part, a name alone. -/
theorem exists_name_of_flatMap_words {parts : List Part} {word : String}
    (words_eq : parts.flatMap Part.words = [word]) :
    IsName word.toList ∧ ∃ part : Part, parts = [part] ∧ part.text = word.toList := by
  cases parts with
  | nil => cases words_eq
  | cons part rest =>
    simp only [List.flatMap_cons, Part.words, List.cons_append, List.cons.injEq, List.append_eq_nil_iff,
      List.map_eq_nil_iff] at words_eq
    obtain ⟨rfl, unindexed, nothing⟩ := words_eq
    rw [String.toList_ofList]
    refine ⟨part.isName, part, by rw [flatMap_words_eq_nil nothing], ?_⟩
    rw [Part.text, unindexed, List.flatMap_nil, List.append_nil]

/-- The two spellings of a path with one segment: behind a point, or in brackets. -/
theorem parse_eq_single_iff {text : List Char} {root : Namespace} {word : String} :
    parse text = .ok ⟨root, [word], List.cons_ne_nil _ _⟩ ↔
      (trim text = root.text.toList ++ '.' :: word.toList ∧ IsName word.toList) ∨
        ∃ inside, trim text = root.text.toList ++ bracketed inside ∧ '.' ∉ inside ∧ IsIndex inside ∧
          index inside = word := by
  rw [parse_eq_ok_iff]
  constructor
  · rintro ⟨parts, spelled, words_eq⟩
    cases parts with
    | nil => cases words_eq
    | cons part rest =>
      simp only [List.flatMap_cons, Part.words, List.cons_append, List.cons.injEq,
        List.append_eq_singleton_iff] at words_eq
      obtain ⟨named, ⟨unindexed, following⟩ | ⟨indexed, nothing⟩⟩ := words_eq
      · left
        obtain ⟨isName, other, rfl, other_text⟩ := exists_name_of_flatMap_words following
        have first : part.text = root.text.toList := by
          rw [Part.text, List.map_eq_nil_iff.mp unindexed, ← named]
          simp
        refine ⟨?_, isName⟩
        rw [spelled, ← first, ← other_text]
        simp [joined]
      · right
        obtain ⟨inside, insides_eq, word_eq⟩ := List.map_eq_singleton_iff.mp indexed
        have among : inside ∈ part.insides := by simp [insides_eq]
        refine ⟨inside, ?_, part.unpointed inside among, part.isIndex inside among, word_eq⟩
        rw [spelled, flatMap_words_eq_nil nothing, ← named, joined]
        simp [Part.text, insides_eq]
  · rintro (⟨spelled, isName⟩ | ⟨inside, spelled, unpointed, isIndex, rfl⟩)
    · refine ⟨[.ofName _ (IsName.root root), .ofName _ isName], ?_, ?_⟩
      · rw [spelled]
        simp [joined, Part.text, Part.ofName]
      · simp [Part.words, Part.ofName]
    · refine ⟨[⟨root.text.toList, [inside], IsName.root root, List.forall_mem_singleton.mpr isIndex,
        List.forall_mem_singleton.mpr unpointed⟩], ?_, ?_⟩
      · rw [spelled]
        simp [joined, Part.text]
      · simp [Part.words]

end Stepwise.Path
