import Stepwise.Proofs.Guard.Composition
import Stepwise.Proofs.Guard.Measuring

/-!
# Guards are read back from their print

A guard is printed from tests: a test behind any number of negations is a factor, factors with `||` between
them are a clause, and clauses with `&&` between them are a chain, which may stand in the braces of a hole.
A test asks for the value of a path or for a length. Whatever words the paths have, `length` among them, and
whatever blanks stand around a comparison, reading the print gives the guard that was printed.
-/

set_option autoImplicit false

namespace Stepwise.Guard

open Stepwise.Text
open Stepwise.Template (opening)

/-! ## What can be printed -/

/-- A test as it is spelled: the value of a path, the length of a list, the length of a bare namespace, or
words that begin in no namespace. -/
inductive Test where
  | value (named : Path) (isWord : ∀ word ∈ named.segments, IsWord word)
  | length (named : Path) (isWord : ∀ word ∈ named.segments, IsWord word) (measure : Measure)
  | bareLength (root : Namespace) (measure : Measure)
  | foreign (first : String) (rest : List String) (isWord : ∀ word ∈ first :: rest, IsWord word)
      (outside : Namespace.ofText? first = none)

namespace Test

/-- The test as it is spelled. -/
def text : Test → List Char
  | .value named _ => named.text.toList
  | .length named _ measure => named.text.toList ++ lengthMark ++ measure.text
  | .bareLength root measure => root.text.toList ++ lengthMark ++ measure.text
  | .foreign first rest _ _ => (".".intercalate (first :: rest)).toList

/-- The guard that a test spells. -/
def guard : Test → Guard
  | .value named _ => .truthy named
  | .length named _ measure => .length named measure.op measure.bound
  | .bareLength root measure => .unresolvedLength root.text measure.op measure.bound
  | .foreign first rest _ _ => .unknown (".".intercalate (first :: rest))

end Test

/-- A test behind some negations. -/
structure Factor where
  negations : Nat
  test : Test

/-- The factor as it is spelled: its negations, then its test. -/
def Factor.text (factor : Factor) : List Char := List.replicate factor.negations '!' ++ factor.test.text

/-- The guard of a factor: its test, negated as often as it says. -/
def Factor.guard (factor : Factor) : Guard := negated^[factor.negations] factor.test.guard

/-- A guard by itself, or several put together. -/
def combine (together : List Guard → Guard) : List Guard → Guard
  | [guard] => guard
  | guards => together guards

/-- Factors of which one has to hold. -/
structure Clause where
  factors : List Factor
  nonempty : factors ≠ []

/-- The clause as it is spelled: its factors with `||` between them. -/
def Clause.text (clause : Clause) : List Char := join orMark (clause.factors.map Factor.text)

/-- The guard of a clause: the disjunction of its factors. -/
def Clause.guard (clause : Clause) : Guard := combine any (clause.factors.map Factor.guard)

/-- Clauses that all have to hold. -/
structure Chain where
  clauses : List Clause
  nonempty : clauses ≠ []

/-- The chain as it is spelled: its clauses with `&&` between them. -/
def Chain.text (chain : Chain) : List Char := join andMark (chain.clauses.map Clause.text)

/-- The guard of a chain: the conjunction of its clauses. -/
def Chain.guard (chain : Chain) : Guard := combine all (chain.clauses.map Clause.guard)

/-- A chain as it is written, bare or in the braces of a hole. -/
def Chain.written (chain : Chain) (wrapped : Bool) : List Char :=
  if wrapped then (Template.Segment.hole chain.text).text else chain.text

/-! ## Texts without loose ends -/

/-- A text that begins and ends with something other than a blank, and not like a hole. -/
structure IsTight (text : List Char) : Prop where
  begins : ∃ c rest, text = c :: rest ∧ isBlank c = false ∧ c ≠ '$'
  ends : ∃ front c, text = front ++ [c] ∧ isBlank c = false

namespace IsTight

/-- Trimming leaves a tight text as it is. -/
theorem trim_eq {text : List Char} (tight : IsTight text) : trim text = text := by
  obtain ⟨c, rest, begins, notBlank, -⟩ := tight.begins
  obtain ⟨front, d, ends, notBlankEnd⟩ := tight.ends
  apply trim_eq_self
  · simp [begins, notBlank]
  · simp [ends, notBlankEnd]

/-- There is no wrapper to take off a tight text. -/
theorem unwrap_eq {text : List Char} (tight : IsTight text) : unwrap text = text := by
  obtain ⟨c, rest, rfl, -, notDollar⟩ := tight.begins
  have unopened : after? opening (c :: rest) = none := by simp [opening, after?, notDollar.symm]
  rw [unwrap, unopened]
  rfl

/-- A text that begins like one and ends like another is tight if these are. -/
theorem append {front rest : List Char} (frontTight : IsTight front) (restTight : IsTight rest)
    (between : List Char) : IsTight (front ++ between ++ rest) := by
  obtain ⟨c, behind, rfl, notBlank⟩ := frontTight.begins
  obtain ⟨before, d, rfl, notBlankEnd⟩ := restTight.ends
  exact ⟨⟨c, _, rfl, notBlank⟩, ⟨c :: behind ++ between ++ before, d, by simp, notBlankEnd⟩⟩

/-- Tight texts joined by anything are tight: the ends are those of the first and the last. -/
theorem join {separator : List Char} {pieces : List (List Char)} (nonempty : pieces ≠ [])
    (tight : ∀ piece ∈ pieces, IsTight piece) : IsTight (join separator pieces) := by
  induction pieces with
  | nil => exact absurd rfl nonempty
  | cons piece rest ih =>
    have first := tight piece (by simp)
    by_cases single : rest = []
    · rwa [single, Text.join]
    · rw [join_cons separator piece single]
      exact first.append (ih single fun other member => tight other (by simp [member])) separator

end IsTight

/-- Reading a tight text takes nothing off it. -/
theorem parse_of_tight {text : List Char} (tight : IsTight text) : parse text = parseBare text := by
  rw [parse_eq, tight.trim_eq, tight.unwrap_eq]

/-- A character that does not occur is undoubled. -/
theorem undoubled_of_not_mem {c : Char} {text : List Char} (absent : c ∉ text) : Undoubled c text :=
  undoubled_iff.mpr fun occurs => absent (occurs.subset (by simp))

/-- A text without a doubled character has no mark that is spelled with it. -/
theorem occursIn_mark_eq_false {c : Char} {text : List Char} (undoubled : Undoubled c text) :
    occursIn (mark c) text = false := by
  rw [Bool.eq_false_iff, ne_eq, occursIn_iff]
  exact fun occurs => undoubled_iff.mp undoubled (List.IsInfix.trans ⟨[' '], [' '], rfl⟩ occurs)

/-! ## Chains of texts -/

section

variable {operands : List (List Char)} {guards : List Guard}

/-- Where there is one, it is the only one, or there are a first and a last. -/
theorem single_or_several {α : Type} {items : List α} (nonempty : items ≠ []) :
    (∃ item, items = [item]) ∨ ∃ first middle last, items = first :: (middle ++ [last]) := by
  obtain ⟨first, rest, rfl⟩ := List.exists_cons_of_ne_nil nonempty
  rcases List.eq_nil_or_concat rest with rfl | ⟨middle, last, rfl⟩
  · exact Or.inl ⟨first, rfl⟩
  · exact Or.inr ⟨first, middle, last, by rw [List.concat_eq_append]⟩

/-- Texts that can all be read stand for what they are read as. -/
theorem map_orUnknown (parsed : operands.map parse = guards.map .ok) :
    operands.map (fun operand => orUnknown operand (parse operand)) = guards := by
  induction operands generalizing guards with
  | nil => simpa using parsed.symm
  | cons operand rest ih =>
    cases guards with
    | nil => simp at parsed
    | cons guard others =>
      simp only [List.map_cons, List.cons.injEq] at parsed
      rw [List.map_cons, ih parsed.2, parsed.1]
      rfl

/-- Two guards or more are combined as they are. -/
theorem combine_of_several {together : List Guard → Guard} (several : 2 ≤ guards.length) :
    combine together guards = together guards := by
  cases guards with
  | nil => rfl
  | cons guard rest =>
    cases rest with
    | nil => simp at several
    | cons next rest => rfl

/-- A connective that joins a single operand parses as that operand. -/
theorem parse_of_single {operand : List Char} (parsed : [operand].map parse = guards.map .ok)
    (together : List Guard → Guard) : parse operand = .ok (combine together guards) := by
  rw [List.map_singleton] at parsed
  obtain ⟨guard, rfl, eq⟩ := List.map_eq_singleton_iff.mp parsed.symm
  exact eq.symm

variable (nonempty : operands ≠ []) (tight : ∀ operand ∈ operands, IsTight operand)
  (parsed : operands.map parse = guards.map .ok)

include nonempty tight parsed

/-- Texts with marks between them are read as what they stand for, put together, if a text with such a mark
in it is cut there. -/
theorem parse_join {c : Char} (notBlank : c ≠ ' ')
    (undoubled : ∀ operand ∈ operands, Undoubled c operand) {together : List Guard → Guard}
    (marked : occursIn (mark c) (join (mark c) operands) = true →
      parseBare (join (mark c) operands) =
        .ok (together ((split (mark c) (join (mark c) operands)).map
          fun operand => orUnknown operand (parse operand)))) :
    parse (join (mark c) operands) = .ok (combine together guards) := by
  have whole : IsTight (join (mark c) operands) := IsTight.join nonempty tight
  have lengths : operands.length = guards.length := by simpa using congrArg List.length parsed
  rcases single_or_several nonempty with ⟨operand, rfl⟩ | ⟨first, middle, last, rfl⟩
  · exact parse_of_single parsed together
  · have cut : split (mark c) (join (mark c) ((first :: middle) ++ [last])) = (first :: middle) ++ [last] :=
      split_mark_join notBlank undoubled
    have several : 2 ≤ guards.length := by
      rw [← lengths]
      simp
    rw [combine_of_several several, ← map_orUnknown parsed, parse_of_tight whole,
      marked (occursIn_join (mark c) first last middle), ← List.cons_append, cut]

variable (noAnd : ∀ operand ∈ operands, Undoubled '&' operand)

include noAnd

/-- Texts with `&&` between them are read as the conjunction of what they are read as. -/
theorem parse_join_andMark : parse (join andMark operands) = .ok (combine all guards) :=
  parse_join nonempty tight parsed (by decide) noAnd parseBare_of_andMark

/-- Texts with `||` between them are read as the disjunction of what they are read as. -/
theorem parse_join_orMark (noOr : ∀ operand ∈ operands, Undoubled '|' operand) :
    parse (join orMark operands) = .ok (combine any guards) := by
  have ands : occursIn andMark (join orMark operands) = false :=
    occursIn_mark_eq_false (undoubled_join (by decide) (by decide) noAnd)
  exact parse_join nonempty tight parsed (by decide) noOr fun ors => parseBare_of_orMark ands ors

end

/-! ## Tests -/

/-- The name of a namespace is a word. -/
theorem IsWord.root (root : Namespace) : IsWord root.text := by
  have each : ∀ c ∈ root.text.toList, isWordly c = true := by
    cases root <;> exact List.all_eq_true.mp (by decide +kernel)
  refine ⟨by cases root <;> decide, each, ?_⟩
  cases root <;> decide

/-- A word begins with one of its characters, so it is not empty. -/
theorem IsWord.begins {word : String} (isWord : IsWord word) :
    ∃ c rest, word.toList = c :: rest ∧ isWordly c = true := by
  have nonempty : word.toList ≠ [] := by simpa using isWord.nonempty
  obtain ⟨c, rest, whole⟩ := List.exists_cons_of_ne_nil nonempty
  exact ⟨c, rest, whole, isWord.wordly c (by simp [whole])⟩

namespace Test

/-- A test is spelled with a word, more words behind points, and perhaps a measure of the length. -/
theorem text_eq (test : Test) : ∃ first rest behind, IsWord first ∧ (∀ word ∈ rest, IsWord word) ∧
    test.text = first.toList ++ (pointed rest ++ behind) ∧
    (behind = [] ∨ ∃ measure : Measure, behind = lengthMark ++ measure.text) := by
  cases test with
  | value named isWord =>
    refine ⟨named.root.text, named.segments, [], IsWord.root named.root, isWord, ?_, Or.inl rfl⟩
    rw [List.append_nil, text, Path.text, toList_intercalate]
  | length named isWord measure =>
    refine ⟨named.root.text, named.segments, _, IsWord.root named.root, isWord, ?_, Or.inr ⟨measure, rfl⟩⟩
    rw [text, Path.text, toList_intercalate]
    simp
  | bareLength root measure =>
    refine ⟨root.text, [], _, IsWord.root root, by simp, ?_, Or.inr ⟨measure, rfl⟩⟩
    simp [text, pointed]
  | foreign first rest isWord outside =>
    rw [List.forall_mem_cons] at isWord
    refine ⟨first, rest, [], isWord.1, isWord.2, ?_, Or.inl rfl⟩
    rw [List.append_nil, text, toList_intercalate]

/-- What tests are spelled with: characters of words, points, and those of comparisons and their bounds. -/
def isSpelling (c : Char) : Bool := isWordly c || c == '.' || isBlank c || isSign c || c.isDigit

/-- A path that is spelled with points has only characters of words and points. -/
theorem isSpelling_of_mem_words {first : String} {rest : List String} (firstWord : IsWord first)
    (restWords : ∀ word ∈ rest, IsWord word) {c : Char} (member : c ∈ first.toList ++ pointed rest) :
    isWordly c = true ∨ c = '.' := by
  rcases List.mem_append.mp member with here | behind
  · exact Or.inl (firstWord.wordly c here)
  · obtain ⟨word, among, inWord⟩ := List.mem_flatMap.mp behind
    rcases List.mem_cons.mp inWord with point | inside
    · exact Or.inr point
    · exact Or.inl ((restWords word among).wordly c inside)

/-- A measure has only characters of a test's spelling. -/
theorem isSpelling_of_mem_measure {measure : Measure} {c : Char} (member : c ∈ measure.text) :
    isSpelling c = true := by
  simp only [Measure.text, List.mem_append] at member
  rcases member with blank | sign | blank | numeral
  · simp [isSpelling, measure.blankBefore c blank]
  · simp [isSpelling, measure.sign_spelled.2.1 c sign]
  · simp [isSpelling, measure.blankAfter c blank]
  · rcases isDigit_of_mem_toString numeral with rfl | digit
    · simp [isSpelling, isWordly]
    · simp [isSpelling, digit]

/-- So has every test. -/
theorem isSpelling_of_mem (test : Test) : ∀ c ∈ test.text, isSpelling c = true := by
  obtain ⟨first, rest, behind, firstWord, restWords, whole, measured⟩ := test.text_eq
  intro c member
  rw [whole, ← List.append_assoc] at member
  rcases List.mem_append.mp member with inWords | after
  · rcases isSpelling_of_mem_words firstWord restWords inWords with wordly | rfl
    · simp [isSpelling, wordly]
    · simp [isSpelling]
  · rcases measured with rfl | ⟨measure, rfl⟩
    · cases after
    · rcases List.mem_append.mp after with inMark | inMeasure
      · have mark : ∀ c ∈ lengthMark, isSpelling c = true := List.all_eq_true.mp (by decide +kernel)
        exact mark c inMark
      · exact isSpelling_of_mem_measure inMeasure

/-- No connective is spelled like a test. -/
theorem not_mem_text (test : Test) : '&' ∉ test.text ∧ '|' ∉ test.text := by
  have ampersand : isSpelling '&' = false := by decide +kernel
  have bar : isSpelling '|' = false := by decide +kernel
  refine ⟨fun member => ?_, fun member => ?_⟩
  · simpa [ampersand] using test.isSpelling_of_mem '&' member
  · simpa [bar] using test.isSpelling_of_mem '|' member

/-- Every test begins with a character of a word. -/
theorem exists_text_eq (test : Test) : ∃ c rest, test.text = c :: rest ∧ isWordly c = true := by
  obtain ⟨first, rest, behind, firstWord, -, whole, -⟩ := test.text_eq
  obtain ⟨c, after, begins, wordly⟩ := firstWord.begins
  exact ⟨c, _, by rw [whole, begins, List.cons_append], wordly⟩

/-- So the spelling of a test is tight. -/
theorem isTight (test : Test) : IsTight test.text := by
  refine ⟨?_, ?_⟩
  · obtain ⟨c, rest, begins, wordly⟩ := test.exists_text_eq
    refine ⟨c, rest, begins, not_blank_of_isWordly wordly, ?_⟩
    rintro rfl
    exact not_mark_of_isWordly wordly (by decide)
  · obtain ⟨first, rest, behind, firstWord, restWords, whole, measured⟩ := test.text_eq
    rcases measured with rfl | ⟨measure, rfl⟩
    · obtain ⟨c, after, begins, -⟩ := firstWord.begins
      have nonempty : first.toList ++ pointed rest ≠ [] := by simp [begins]
      refine ⟨(first.toList ++ pointed rest).dropLast, (first.toList ++ pointed rest).getLast nonempty,
        ?_, ?_⟩
      · rw [whole, List.append_nil]
        exact (List.dropLast_concat_getLast nonempty).symm
      · rcases isSpelling_of_mem_words firstWord restWords (List.getLast_mem nonempty) with wordly | point
        · exact not_blank_of_isWordly wordly
        · rw [point]
          decide
    · have nonempty : measure.numeral ≠ [] := toString_ne_nil measure.bound
      refine ⟨first.toList ++ pointed rest ++ lengthMark ++ measure.before ++ measure.sign.toList ++
        measure.after ++ measure.numeral.dropLast, measure.numeral.getLast nonempty, ?_, ?_⟩
      · rw [whole, Measure.text, List.append_assoc, List.dropLast_concat_getLast]
        simp
      · exact not_blank_of_mem_toString (List.getLast_mem nonempty)

/-- A test is read back from its spelling: one case for each kind of test. -/
theorem parseTest_text (test : Test) : parseTest test.text = .ok test.guard := by
  cases test with
  | value named isWord => exact parseTest_path isWord
  | foreign first rest isWord outside => exact parseTest_foreign isWord outside
  | length named isWord measure =>
    have plain := fun word member => (isWord word member).isPlainWord
    have whole : named.root.text.toList ++ pointed named.segments = named.text.toList := by
      rw [Path.text, toList_intercalate]
    have read := parseTest_measured (not_point_mem_root named.root) isWord measure
    rw [whole, Template.trim_path plain, Measure.guardOf, Template.parse_path_text plain,
      ← List.append_assoc, whole, ← List.append_assoc] at read
    exact read
  | bareLength root measure =>
    have plain : ∀ word ∈ [root.text], Template.IsPlainWord word := by
      simpa using Template.isPlainWord_root root
    have noWords : ∀ word ∈ ([] : List String), IsWord word := by simp
    have whole : ".".intercalate [root.text] = root.text := String.intercalate_singleton
    have trimmed := Template.trim_intercalate plain
    have unread := Template.parse_intercalate plain
    rw [whole] at trimmed unread
    have read := parseTest_measured (not_point_mem_root root) noWords measure
    simp only [pointed, List.flatMap_nil, List.append_nil, List.nil_append, trimmed, Measure.guardOf, unread,
      Namespace.ofText?_text, ne_eq, not_true_eq_false, dite_false, String.ofList_toList] at read
    rw [text, List.append_assoc]
    exact read

end Test

/-! ## From tests to chains -/

namespace Factor

/-- No character of a connective is in a factor. -/
theorem not_mem_text (factor : Factor) : '&' ∉ factor.text ∧ '|' ∉ factor.text := by
  have inside := factor.test.not_mem_text
  simp [text, inside]

/-- The spelling of a factor is tight. -/
theorem isTight (factor : Factor) : IsTight factor.text := by
  have tight := factor.test.isTight
  refine ⟨?_, ?_⟩
  · rw [text]
    cases factor.negations with
    | zero => exact tight.begins
    | succ n => exact ⟨'!', _, rfl, by decide, by decide⟩
  · obtain ⟨front, c, ends, notBlank⟩ := tight.ends
    exact ⟨List.replicate factor.negations '!' ++ front, c, by simp [text, ends], notBlank⟩

/-- A factor is read as the guard that it spells: every `!` at its beginning negates the rest. -/
theorem parse_text (factor : Factor) : parse factor.text = .ok factor.guard := by
  obtain ⟨negations, test⟩ := factor
  have ands : ∀ n, occursIn andMark (Factor.text ⟨n, test⟩) = false :=
    fun n => occursIn_mark_eq_false (undoubled_of_not_mem (Factor.not_mem_text ⟨n, test⟩).1)
  have ors : ∀ n, occursIn orMark (Factor.text ⟨n, test⟩) = false :=
    fun n => occursIn_mark_eq_false (undoubled_of_not_mem (Factor.not_mem_text ⟨n, test⟩).2)
  have tight : ∀ n, IsTight (Factor.text ⟨n, test⟩) := fun n => Factor.isTight ⟨n, test⟩
  -- one `!` is read at a time, and what is behind it is a factor again
  induction negations with
  | zero =>
    obtain ⟨c, rest, begins, wordly⟩ := test.exists_text_eq
    have bare : Factor.text ⟨0, test⟩ = c :: rest := by simp [Factor.text, begins]
    have notBang : c ≠ '!' := by
      rintro rfl
      exact not_mark_of_isWordly wordly (by decide)
    rw [parse_of_tight (tight 0), bare, parseBare, ← bare, ands 0, ors 0, bare]
    simp only [Bool.false_eq_true, if_false, if_neg notBang]
    rw [← begins, test.parseTest_text]
    rfl
  | succ n ih =>
    have negated_text : Factor.text ⟨n + 1, test⟩ = '!' :: Factor.text ⟨n, test⟩ := by
      simp [Factor.text, List.replicate_succ]
    rw [parse_of_tight (tight (n + 1)), negated_text, parseBare, ← negated_text, ands (n + 1), ors (n + 1)]
    have negated_guard : Factor.guard ⟨n + 1, test⟩ = negated (Factor.guard ⟨n, test⟩) :=
      Function.iterate_succ_apply' negated n test.guard
    simp only [Bool.false_eq_true, if_false, if_true, ih]
    rw [negated_guard]
    rfl

end Factor

namespace Clause

variable (clause : Clause)

/-- The spelling of a clause is tight. -/
theorem isTight : IsTight clause.text :=
  IsTight.join (by simpa using clause.nonempty) (List.forall_mem_map.mpr fun factor _ => factor.isTight)

/-- A clause has no `&&` in it, since none of its factors has an `&`. -/
theorem undoubled_text : Undoubled '&' clause.text :=
  undoubled_join (by decide) (by decide)
    (List.forall_mem_map.mpr fun factor _ => undoubled_of_not_mem factor.not_mem_text.1)

/-- A clause is read back from its spelling. -/
theorem parse_text : parse clause.text = .ok clause.guard := by
  apply parse_join_orMark
  · simpa using clause.nonempty
  · exact List.forall_mem_map.mpr fun factor _ => factor.isTight
  · simp [Factor.parse_text]
  · exact List.forall_mem_map.mpr fun factor _ => undoubled_of_not_mem factor.not_mem_text.1
  · exact List.forall_mem_map.mpr fun factor _ => undoubled_of_not_mem factor.not_mem_text.2

end Clause

namespace Chain

variable (chain : Chain)

/-- The spelling of a chain is tight. -/
theorem isTight : IsTight chain.text :=
  IsTight.join (by simpa using chain.nonempty) (List.forall_mem_map.mpr fun clause _ => clause.isTight)

/-- A chain is read back from its spelling. -/
theorem parse_text : parse chain.text = .ok chain.guard := by
  apply parse_join_andMark
  · simpa using chain.nonempty
  · exact List.forall_mem_map.mpr fun clause _ => clause.isTight
  · simp [Clause.parse_text]
  · exact List.forall_mem_map.mpr fun clause _ => clause.undoubled_text

/-- Parsing undoes printing: a chain that is written bare or in the braces of a hole is read as the guard
that it spells. -/
theorem parse_written (wrapped : Bool) : parse (chain.written wrapped) = .ok chain.guard := by
  have bare := chain.parse_text
  cases wrapped with
  | false => exact bare
  | true =>
    rw [parse_of_tight chain.isTight] at bare
    rw [written, if_pos rfl, parse_eq, unwrap_trim_hole, chain.isTight.trim_eq, bare]

end Chain

/-- The empty padding is blank. -/
theorem isBlank_of_mem_nil : ∀ c ∈ ([] : List Char), isBlank c = true := List.forall_mem_nil _

/-- A single space is blank padding. -/
theorem isBlank_of_mem_space : ∀ c ∈ [' '], isBlank c = true := List.forall_mem_singleton.mpr rfl

/-- Comparisons with and without blanks around them. -/
def Measure.atLeastTrial : Measure where
  before := [' ']
  sign := ">="
  op := .greaterOrEqual
  after := [' ']
  bound := -3
  blankBefore := isBlank_of_mem_space
  spelled := by decide
  blankAfter := isBlank_of_mem_space
  least := by decide
  greatest := by decide

/-- A comparison with nothing around it. -/
def Measure.equalTrial : Measure where
  before := []
  sign := "==="
  op := .equal
  after := []
  bound := 0
  blankBefore := isBlank_of_mem_nil
  spelled := by decide
  blankAfter := isBlank_of_mem_nil
  least := by decide
  greatest := by decide

/-- A clause of a length and a doubly negated length, and a test outside every namespace. -/
def Chain.trial : Chain where
  clauses :=
    [⟨[⟨0, .length ⟨.vars, ["length"], by simp⟩ (by decide +kernel) Measure.atLeastTrial⟩,
        ⟨2, .bareLength .vars Measure.equalTrial⟩], by simp⟩,
      ⟨[⟨0, .foreign "no" ["length"] (by decide +kernel) (by decide)⟩], by simp⟩]
  nonempty := by simp

example : String.ofList (Chain.trial.written true) =
    "$\x7bvars.length.length >= -3 || !!vars.length===0 && no.length\x7d" := by
  decide +kernel

end Stepwise.Guard
