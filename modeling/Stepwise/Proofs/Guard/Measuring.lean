import Stepwise.Guard.Parser
import Stepwise.Proofs.Template.Spelling
import Stepwise.Proofs.Text.Numeral

/-!
# The search for a length

A test of a length is told from a path by a search for `.length` where a path ends. The same letters may
stand in the middle of a path, or begin a longer word. The search passes over the words of a path one by one:
it stops at a word behind a point exactly if that word is `length` and the path ends there.
-/

set_option autoImplicit false

namespace Stepwise.Guard

open Stepwise.Text
open Stepwise.Template (IsPlainWord)

/-! ## Words -/

/-- The code points of the blanks. -/
def blankPoints : List Nat :=
  [9, 10, 11, 12, 13, 0x20, 0x85, 0xa0, 0x1680, 0x2000, 0x2001, 0x2002, 0x2003, 0x2004, 0x2005, 0x2006,
    0x2007, 0x2008, 0x2009, 0x200a, 0x2028, 0x2029, 0x202f, 0x205f, 0x3000]

/-- No blank character is a letter. -/
theorem isLetter_eq_false {c : Char} (blank : isBlank c = true) : isLetter c = false := by
  have among : c.toNat ∈ blankPoints := by
    simp only [isBlank, Bool.or_eq_true, Bool.and_eq_true, decide_eq_true_eq, beq_iff_eq] at blank
    simp only [blankPoints, List.mem_cons, List.not_mem_nil, or_false]
    omega
  have noLetter : ∀ n ∈ blankPoints, ((letterBounds.takeWhile (· ≤ n)).length % 2 == 1) = false := by
    decide +kernel
  exact noLetter c.toNat among

/-- A character of a word: a letter or a number, an underscore or a dash. -/
def isWordly (c : Char) : Bool := isLetter c || c == '_' || c == '-'

/-- What the signs of guards and templates are written with. -/
def marks : List Char := Template.signs ++ ['.', '&', '!', '<', '>', '=', '$']

/-- No character of a word is one of the marks. -/
theorem not_mark_of_isWordly {c : Char} (wordly : isWordly c = true) : c ∉ marks := by
  have noMark : ∀ mark ∈ marks, (!isWordly mark) = true := List.all_eq_true.mp (by decide +kernel)
  intro member
  simpa [wordly] using noMark c member

/-- No character of a word is blank. -/
theorem not_blank_of_isWordly {c : Char} (wordly : isWordly c = true) : isBlank c = false := by
  by_contra blank
  rw [Bool.not_eq_false] at blank
  have underscore : isBlank '_' = false := by decide
  have dash : isBlank '-' = false := by decide
  simp only [isWordly, isLetter_eq_false blank, Bool.false_or, Bool.or_eq_true, beq_iff_eq] at wordly
  rcases wordly with rfl | rfl
  · simp [underscore] at blank
  · simp [dash] at blank

/-- The word that is asked for. -/
def lengthWord : List Char := "length".toList

/-- The mark of a length is a point and the word after it. -/
theorem lengthMark_eq : lengthMark = '.' :: lengthWord := rfl

/-- A word that may be a segment of a path in a guard: letters, numbers, underscores and dashes, but no dash
right behind `length`. -/
structure IsWord (word : String) : Prop where
  nonempty : word ≠ ""
  wordly : ∀ c ∈ word.toList, isWordly c = true
  undashed : ¬ lengthWord ++ ['-'] <+: word.toList

/-- Whether a text is a word can be decided. -/
instance (word : String) : Decidable (IsWord word) :=
  decidable_of_iff (word ≠ "" ∧ word.toList.all isWordly = true ∧ ¬ lengthWord ++ ['-'] <+: word.toList)
    ⟨fun each => ⟨each.1, List.all_eq_true.mp each.2.1, each.2.2⟩,
      fun isWord => ⟨isWord.nonempty, List.all_eq_true.mpr isWord.wordly, isWord.undashed⟩⟩

/-- A word of a guard is a plain segment of a path. -/
theorem IsWord.isPlainWord {word : String} (isWord : IsWord word) : IsPlainWord word := by
  refine ⟨isWord.nonempty, fun c member => ?_⟩
  have noMark := not_mark_of_isWordly (isWord.wordly c member)
  have notBlank := not_blank_of_isWordly (isWord.wordly c member)
  refine Template.isPlain_iff.mpr ⟨fun sign => noMark ?_, ?_, notBlank⟩
  · exact List.mem_append_left _ sign
  · rintro rfl
    exact noMark (by decide)

/-! ## The search -/

/-- The search for the mark takes the first one that the path does not continue behind, and else
goes on. -/
theorem splitLength?_eq (passed text : List Char) :
    splitLength? passed text = (breakAt lengthMark text).bind fun found =>
      if found.2.head?.any continuesPath then splitLength? (passed ++ found.1 ++ lengthMark) found.2
      else some (passed ++ found.1, found.2) := by
  rw [splitLength?]
  split
  · rename_i missing
    rw [missing]
    rfl
  · rename_i broken
    rw [broken]
    rfl

/-- The search goes on behind a character at which `.length` does not stand. -/
theorem splitLength?_cons {c : Char} {text : List Char} (absent : ¬ lengthMark <+: c :: text)
    (passed : List Char) : splitLength? passed (c :: text) = splitLength? (passed ++ [c]) text := by
  have notHere : after? lengthMark (c :: text) = none := by
    rw [← after?_isSome_iff] at absent
    simpa using absent
  rw [splitLength?_eq passed, splitLength?_eq (passed ++ [c]), breakAt, notHere]
  simp only [Option.bind_map, Function.comp_def, List.append_assoc, List.singleton_append]

/-- At `.length` the search ends, unless a path goes on there. -/
theorem splitLength?_mark (passed after : List Char) :
    splitLength? passed (lengthMark ++ after) =
      if after.head?.any continuesPath then splitLength? (passed ++ lengthMark) after
      else some (passed, after) := by
  have apart : ¬ lengthMark <:+: [] ++ lengthMark.dropLast := by decide +kernel
  have found := breakAt_append (show lengthMark ≠ [] by decide) apart after
  rw [List.nil_append] at found
  rw [splitLength?_eq, found]
  simp

/-- The search passes over a text without a point. -/
theorem splitLength?_append {word : List Char} (noPoint : '.' ∉ word) (passed text : List Char) :
    splitLength? passed (word ++ text) = splitLength? (passed ++ word) text := by
  induction word generalizing passed with
  | nil => simp
  | cons c word ih =>
    simp only [List.mem_cons, not_or] at noPoint
    have absent : ¬ lengthMark <+: c :: (word ++ text) := by
      intro begins
      have first := (List.cons_prefix_cons.mp begins).1
      exact noPoint.1 first
    rw [List.cons_append, splitLength?_cons absent, ih noPoint.2]
    simp

/-- Words with a point before each. -/
def pointed (words : List String) : List Char := words.flatMap fun word => '.' :: word.toList

/-- Words with points between them are the first one and the others with a point before each. -/
theorem toList_intercalate (first : String) (rest : List String) :
    (".".intercalate (first :: rest)).toList = first.toList ++ pointed rest := by
  induction rest generalizing first with
  | nil => simp [pointed]
  | cons next rest ih =>
    rw [String.intercalate_cons_of_ne_nil (by simp)]
    simp [ih, pointed]

/-- A point continues a path. -/
theorem continuesPath_point : continuesPath '.' = true := Bool.or_true _

/-- A start without a point that is met at a word lies within the word, if nothing but a point stands behind
it. -/
theorem prefix_of_prefix_append {start word next : List Char} (begins : start <+: word ++ next)
    (noPoint : '.' ∉ start) (ends : ∀ c ∈ next.head?, c = '.') : start <+: word := by
  rcases List.prefix_or_prefix_of_prefix begins (List.prefix_append word next) with within | ⟨more, whole⟩
  · exact within
  · cases more with
    | nil =>
      exact ⟨[], by rw [List.append_nil, ← whole, List.append_nil]⟩
    | cons c more =>
      exfalso
      rw [← whole, List.prefix_append_right_inj] at begins
      obtain ⟨rest, rfl⟩ := begins
      have point : c = '.' := ends c (by simp)
      exact noPoint (by simp [← whole, point])

/-- The search passes over a word behind a point, unless the word is the one asked for and nothing stands
behind it. -/
theorem splitLength?_word {word : String} (isWord : IsWord word) (passed : List Char) {next : List Char}
    (ends : ∀ c ∈ next.head?, c = '.') :
    splitLength? passed ('.' :: (word.toList ++ next)) =
      if word.toList = lengthWord ∧ next = [] then some (passed, [])
      else splitLength? (passed ++ '.' :: word.toList) next := by
  have noPoint : '.' ∉ word.toList :=
    fun member => not_mark_of_isWordly (isWord.wordly '.' member) (by decide)
  -- a word that begins with `length` is met by the mark, and passed over only if a path goes on behind it
  by_cases begins : lengthWord <+: word.toList
  · obtain ⟨rest, whole⟩ := begins
    have here : '.' :: (word.toList ++ next) = lengthMark ++ (rest ++ next) := by
      rw [← whole]
      simp [lengthMark_eq]
    have passed_eq : passed ++ '.' :: word.toList = passed ++ lengthMark ++ rest := by
      rw [← whole]
      simp [lengthMark_eq]
    rw [here, splitLength?_mark, passed_eq]
    cases rest with
    | nil =>
      have exactly : word.toList = lengthWord := by rw [← whole, List.append_nil]
      cases next with
      | nil => simp [exactly]
      | cons c next =>
        have begun : ((c :: next).head?.any continuesPath) = true := by
          rw [ends c (by simp)]
          exact continuesPath_point
        simp only [List.nil_append, List.append_nil, if_pos begun, reduceCtorEq, and_false, if_false]
    | cons c rest =>
      have longer : word.toList ≠ lengthWord := by
        rw [← whole]
        simp
      have goesOn : continuesPath c = true := by
        have wordly : isWordly c = true := isWord.wordly c (by simp [← whole])
        have notDash : c ≠ '-' := by
          rintro rfl
          exact isWord.undashed ⟨rest, by simp [← whole]⟩
        simpa [isWordly, continuesPath, notDash, or_assoc] using Or.inl wordly
      have noPointBehind : '.' ∉ c :: rest := fun member => noPoint (by simp [← whole, member])
      have begun : (c :: rest ++ next).head?.any continuesPath = true := by simpa using goesOn
      rw [if_pos begun, if_neg fun both => longer both.1, splitLength?_append noPointBehind]
  · have longer : word.toList ≠ lengthWord := by
      intro same
      exact begins (same ▸ List.prefix_refl _)
    have absent : ¬ lengthMark <+: '.' :: (word.toList ++ next) := by
      intro here
      have behind : lengthWord <+: word.toList ++ next := (List.cons_prefix_cons.mp here).2
      exact begins (prefix_of_prefix_append behind (by decide) ends)
    rw [if_neg fun both => longer both.1, splitLength?_cons absent, splitLength?_append noPoint]
    simp

/-- The search passes over words behind points, if a point stands behind them. -/
theorem splitLength?_pointed {words : List String} (isWord : ∀ word ∈ words, IsWord word)
    (passed next : List Char) : splitLength? passed (pointed words ++ '.' :: next) =
      splitLength? (passed ++ pointed words) ('.' :: next) := by
  induction words generalizing passed with
  | nil => simp [pointed]
  | cons word rest ih =>
    have later := fun other member => isWord other (List.mem_cons_of_mem word member)
    have ends : ∀ c ∈ (pointed rest ++ '.' :: next).head?, c = '.' := by
      cases rest <;> simp [pointed]
    have first := splitLength?_word (isWord word (by simp)) passed ends
    rw [if_neg (by simp)] at first
    have whole : pointed (word :: rest) ++ '.' :: next =
        '.' :: (word.toList ++ (pointed rest ++ '.' :: next)) := by simp [pointed]
    rw [whole, first, ih later]
    simp [pointed]

/-- A search over a word and words behind points ends, if at all, at the end of the text. -/
theorem splitLength?_dotted {first : List Char} (noPoint : '.' ∉ first) {words : List String}
    (isWord : ∀ word ∈ words, IsWord word) :
    splitLength? [] (first ++ pointed words) = none ∨
      ∃ before, splitLength? [] (first ++ pointed words) = some (before, []) := by
  have nothing : ∀ passed, splitLength? passed [] = none := by
    intro passed
    rw [splitLength?_eq]
    rfl
  rw [splitLength?_append noPoint]
  rcases List.eq_nil_or_concat words with rfl | ⟨front, last, rfl⟩
  · exact Or.inl (nothing _)
  · have whole : pointed (front.concat last) = pointed front ++ '.' :: (last.toList ++ []) := by
      simp [pointed]
    have frontWords : ∀ word ∈ front, IsWord word := fun word member => isWord word (by simp [member])
    have ends : ∀ c ∈ ([] : List Char).head?, c = '.' := by simp
    rw [whole, splitLength?_pointed frontWords, splitLength?_word (isWord last (by simp)) _ ends]
    split
    · exact Or.inr ⟨_, rfl⟩
    · exact Or.inl (nothing _)

/-! ## Reading tests -/

/-- A word and words behind points are no test of a length. -/
theorem parseLength_dotted {first : List Char} (noPoint : '.' ∉ first) {words : List String}
    (isWord : ∀ word ∈ words, IsWord word) : parseLength (first ++ pointed words) = .ok none := by
  rw [parseLength]
  rcases splitLength?_dotted noPoint isWord with missing | ⟨before, found⟩
  · rw [missing]
  · rw [found]
    rfl

/-- No namespace has a point in its name. -/
theorem not_point_mem_root (root : Namespace) : '.' ∉ root.text.toList := by
  cases root <;> decide

/-- A path of words is read as the test of its value. -/
theorem parseTest_path {named : Path} (isWord : ∀ word ∈ named.segments, IsWord word) :
    parseTest named.text.toList = .ok (.truthy named) := by
  have unmeasured : parseLength named.text.toList = .ok none := by
    rw [Path.text, toList_intercalate]
    exact parseLength_dotted (not_point_mem_root named.root) isWord
  have read := Template.parse_path_text fun word member => (isWord word member).isPlainWord
  rw [parseTest, unmeasured]
  simp only [read]

/-- Words that begin in no namespace are read as a test that never holds. -/
theorem parseTest_foreign {first : String} {rest : List String}
    (isWord : ∀ word ∈ first :: rest, IsWord word) (outside : Namespace.ofText? first = none) :
    parseTest (".".intercalate (first :: rest)).toList =
      .ok (.unknown (".".intercalate (first :: rest))) := by
  have plain : ∀ word ∈ first :: rest, IsPlainWord word :=
    fun word member => (isWord word member).isPlainWord
  have noPoint : '.' ∉ first.toList := by
    intro member
    exact (Template.isPlain_iff.mp ((plain first (by simp)).2 '.' member)).2.1 rfl
  have unmeasured : parseLength (".".intercalate (first :: rest)).toList = .ok none := by
    rw [toList_intercalate]
    exact parseLength_dotted noPoint fun word member => isWord word (by simp [member])
  have read : Path.parse (".".intercalate (first :: rest)).toList = .error (.unknownNamespace first) := by
    rw [Template.parse_intercalate plain, outside]
  rw [parseTest, unmeasured]
  simp only [read, String.ofList_toList]

/-! ## Tests of lengths -/

/-- No character of a comparison's sign is blank. -/
theorem not_blank_of_isSign {c : Char} (sign : isSign c = true) : isBlank c = false := by
  simp only [isSign, Bool.or_eq_true, beq_iff_eq] at sign
  rcases sign with ((rfl | rfl) | rfl) | rfl <;> decide

/-- A text compares with a number: a sign behind blanks, and a numeral between blanks. -/
def IsComparison (text : List Char) (op : Comparison) (bound : Int) : Prop :=
  ∃ blanks sign numeral, text = blanks ++ (sign ++ numeral) ∧ (∀ c ∈ blanks, isBlank c = true) ∧
    (∀ c ∈ sign, isSign c = true) ∧ (∀ c ∈ numeral.head?, isSign c = false) ∧
    Comparison.ofSymbol? (String.ofList sign) = some op ∧ integer? (trim numeral) = some bound

/-- A text compares when its leading signs spell a comparison and the trimmed rest an integer. -/
theorem isComparison_iff {text : List Char} {op : Comparison} {bound : Int} :
    IsComparison text op bound ↔
      Comparison.ofSymbol? (String.ofList ((trimStart text).takeWhile isSign)) = some op ∧
        integer? (trim ((trimStart text).dropWhile isSign)) = some bound := by
  constructor
  · rintro ⟨blanks, sign, numeral, rfl, blank, signs, stops, spelled, read⟩
    have started : trimStart (sign ++ numeral) = sign ++ numeral := by
      cases sign with
      | nil => cases spelled
      | cons c sign =>
        have notBlank := not_blank_of_isSign (signs c List.mem_cons_self)
        rw [trimStart, List.cons_append, List.dropWhile_cons_of_neg (by simp [notBlank])]
    have apart : numeral.takeWhile isSign = [] ∧ numeral.dropWhile isSign = numeral := by
      cases numeral with
      | nil => exact ⟨rfl, rfl⟩
      | cons c numeral => simp [stops c rfl]
    rw [trimStart_append_of_blank blank, started, List.takeWhile_append_of_pos signs,
      List.dropWhile_append_of_pos signs, apart.1, apart.2, List.append_nil]
    exact ⟨spelled, read⟩
  · rintro ⟨spelled, read⟩
    refine ⟨text.takeWhile isBlank, (trimStart text).takeWhile isSign, (trimStart text).dropWhile isSign,
      ?_, fun c => List.mem_takeWhile_imp, fun c => List.mem_takeWhile_imp, fun c begins => ?_, spelled, read⟩
    · rw [List.takeWhile_append_dropWhile, trimStart, List.takeWhile_append_dropWhile]
    · have stops := List.head?_dropWhile_not isSign (trimStart text)
      rw [begins] at stops
      simpa using stops

/-- A mark with a comparison behind it is read as a length, of the path before it or, where that is
none, of nothing. -/
theorem parseLength_of_comparison {text before after : List Char} {op : Comparison} {bound : Int}
    (found : splitLength? [] text = some (before, after)) (compared : IsComparison after op bound) :
    parseLength text = .ok (some (match Path.parse (trim before) with
      | .ok named => .length named op bound
      | .error _ => .unresolvedLength (String.ofList (trim before)) op bound)) := by
  obtain ⟨spelled, read⟩ := isComparison_iff.mp compared
  have signed : ((trimStart after).takeWhile isSign).isEmpty = false := by
    rw [Bool.eq_false_iff, ne_eq, List.isEmpty_iff]
    intro empty
    rw [empty] at spelled
    cases spelled
  have begun : (trimStart after).isEmpty = false := by
    rw [Bool.eq_false_iff, ne_eq, List.isEmpty_iff]
    intro empty
    rw [empty] at signed
    cases signed
  rw [parseLength, found]
  simp only [begun, signed, spelled, read, Bool.false_eq_true, if_false]
  cases Path.parse (trim before) <;> rfl

/-- The ways to spell a comparison. -/
def comparisonSpellings : List (String × Comparison) :=
  [(">", .greater), (">=", .greaterOrEqual), ("<", .less), ("<=", .lessOrEqual), ("==", .equal),
    ("===", .equal), ("!=", .notEqual), ("!==", .notEqual)]

/-- A comparison with a bound as it is spelled behind a length, with blanks around the comparison. -/
structure Measure where
  before : List Char
  sign : String
  op : Comparison
  after : List Char
  bound : Int
  blankBefore : ∀ c ∈ before, isBlank c = true
  spelled : (sign, op) ∈ comparisonSpellings
  blankAfter : ∀ c ∈ after, isBlank c = true
  least : -(Nat.pow 2 63 : Int) ≤ bound
  greatest : bound < (Nat.pow 2 63 : Int)

namespace Measure

variable (measure : Measure)

/-- The bound as it is spelled. -/
def numeral : List Char := (toString measure.bound).toList

/-- What stands behind the length. -/
def text : List Char := measure.before ++ (measure.sign.toList ++ (measure.after ++ measure.numeral))

/-- The guard that a text with the measure behind it spells: a text that is no path has no items. -/
def guardOf (place : List Char) : Guard :=
  match Path.parse place with
  | .ok named => .length named measure.op measure.bound
  | .error _ => .unresolvedLength (String.ofList place) measure.op measure.bound

/-- The sign is made of signs, is not empty, and stands for the comparison. -/
theorem sign_spelled :
    measure.sign.toList ≠ [] ∧ (∀ c ∈ measure.sign.toList, isSign c = true) ∧
      Comparison.ofSymbol? measure.sign = some measure.op := by
  have each : ∀ spelling ∈ comparisonSpellings, spelling.1.toList ≠ [] ∧
      spelling.1.toList.all isSign = true ∧ Comparison.ofSymbol? spelling.1 = some spelling.2 := by
    decide
  obtain ⟨nonempty, signs, op⟩ := each (measure.sign, measure.op) measure.spelled
  exact ⟨nonempty, List.all_eq_true.mp signs, op⟩

/-- What stands behind the comparison has no character of one. -/
theorem not_sign_behind : ∀ c ∈ measure.after ++ measure.numeral, isSign c = false := by
  intro c member
  by_contra sign
  rw [Bool.not_eq_false] at sign
  rcases List.mem_append.mp member with blank | numeral
  · simpa [not_blank_of_isSign sign] using measure.blankAfter c blank
  · simp only [isSign, Bool.or_eq_true, beq_iff_eq] at sign
    have digit := isDigit_of_mem_toString numeral
    rcases sign with ((rfl | rfl) | rfl) | rfl <;> simp at digit

/-- The bound is read from what stands behind the comparison. -/
theorem integer?_behind : integer? (trim (measure.after ++ measure.numeral)) = some measure.bound := by
  have tight : trim measure.numeral = measure.numeral :=
    trim_eq_self (fun c begins => not_blank_of_mem_toString (List.mem_of_mem_head? begins))
      (fun c ends => not_blank_of_mem_toString (List.mem_of_mem_getLast? ends))
  have padded : trim (measure.after ++ measure.numeral ++ []) = trim measure.numeral :=
    trim_pad measure.blankAfter (by simp) measure.numeral
  rw [List.append_nil] at padded
  rw [padded, tight]
  exact integer?_toString measure.least measure.greatest

/-- A measure's text is read as its comparison with its bound. -/
theorem isComparison : IsComparison measure.text measure.op measure.bound := by
  obtain ⟨-, signs, op⟩ := measure.sign_spelled
  exact ⟨measure.before, measure.sign.toList, measure.after ++ measure.numeral, rfl, measure.blankBefore, signs,
    fun c begins => measure.not_sign_behind c (List.mem_of_mem_head? begins), by simpa using op,
    measure.integer?_behind⟩

/-- Behind the mark a measure's text does not continue the path. -/
theorem not_continues : measure.text.head?.any continuesPath = false := by
  obtain ⟨nonempty, signs, -⟩ := measure.sign_spelled
  obtain ⟨s, rest, whole⟩ := List.exists_cons_of_ne_nil nonempty
  rw [text, whole]
  cases before : measure.before with
  | nil =>
    have sign : isSign s = true := signs s (by simp [whole])
    have stops : ∀ c ∈ "<>=!".toList, (!continuesPath c) = true := List.all_eq_true.mp (by decide +kernel)
    simp only [List.nil_append, List.cons_append, List.head?_cons, Option.any_some]
    simpa using stops s (by simpa [isSign, or_assoc] using sign)
  | cons c blanks =>
    have blank : isBlank c = true := measure.blankBefore c (by simp [before])
    simp only [List.cons_append, List.head?_cons, Option.any_some]
    have underscore : c ≠ '_' := by
      rintro rfl
      simp [show isBlank '_' = false by decide] at blank
    have point : c ≠ '.' := by
      rintro rfl
      simp [show isBlank '.' = false by decide] at blank
    simp [continuesPath, isLetter_eq_false blank, underscore, point]

end Measure

section

variable {first : String} (noPoint : '.' ∉ first.toList) {words : List String}
  (isWord : ∀ word ∈ words, IsWord word) (measure : Measure)

include noPoint isWord

/-- The search finds the end of a path behind which a length is measured. -/
theorem splitLength?_measured :
    splitLength? [] (first.toList ++ (pointed words ++ (lengthMark ++ measure.text))) =
      some (first.toList ++ pointed words, measure.text) := by
  have found := splitLength?_pointed isWord first.toList (lengthWord ++ measure.text)
  have mark : lengthMark ++ measure.text = '.' :: (lengthWord ++ measure.text) := rfl
  rw [splitLength?_append noPoint, List.nil_append, mark, found, ← mark, splitLength?_mark,
    measure.not_continues]
  simp

/-- A text behind which a length is measured is read as the guard that both spell. -/
theorem parseTest_measured :
    parseTest (first.toList ++ (pointed words ++ (lengthMark ++ measure.text))) =
      .ok (measure.guardOf (trim (first.toList ++ pointed words))) := by
  rw [parseTest, parseLength_of_comparison (splitLength?_measured noPoint isWord measure) measure.isComparison]
  rfl

end

end Stepwise.Guard
