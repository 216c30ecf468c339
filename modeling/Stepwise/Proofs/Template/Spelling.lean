import Stepwise.Proofs.Template.Grammar
import Stepwise.Proofs.Template.Passing

/-!
# Spellings of alternatives

An alternative can be spelled as a quoted text, as a path with points between plain segments, or in one of
the fixed ways to spell a token, and with blanks around it. Both scans of a hole pass over every such
spelling, and reading it gives the alternative that was spelled.
-/

set_option autoImplicit false

namespace Stepwise.Template

/-! ## What can be spelled -/

/-- The characters that mean something to the scans of a hole. -/
def signs : List Char := ['[', ']', '(', ')', '{', '}', '\'', '"', '|']

/-- A character that a segment of a path may have. -/
def isPlain (c : Char) : Bool := !(signs.contains c || c == '.' || Text.isBlank c)

/-- A word that a segment of a path may be. -/
def IsPlainWord (word : String) : Prop := word ≠ "" ∧ ∀ c ∈ word.toList, isPlain c = true

/-- The fixed ways to spell a token. -/
def tokenSpellings : List (String × Token) :=
  [("now", .timestamp), ("new Date()", .timestamp), ("new Date().toISOString()", .timestamp),
    ("today", .date), ("new Date().toISOString().split('T')[0]", .date),
    ("timestamp_ms", .epochMillis), ("Date.now()", .epochMillis),
    ("uuid", .uuid), ("crypto.randomUUID()", .uuid)]

/-- An alternative as it is spelled. -/
inductive Spelling where
  | quoted (quote : Char) (text : List Char) (isQuote : isQuote quote = true) (inside : quote ∉ text)
  | path (named : Path) (plain : ∀ segment ∈ named.segments, IsPlainWord segment)
  | token (text : String) (meant : Token) (fixed : (text, meant) ∈ tokenSpellings)

namespace Spelling

/-- The text of a spelling. -/
def text : Spelling → List Char
  | .quoted quote text _ _ => quote :: (text ++ [quote])
  | .path named _ => named.text.toList
  | .token text _ _ => text.toList

/-- The alternative that is spelled. -/
def meaning : Spelling → Alternative
  | .quoted _ text _ _ => .literal (String.ofList text)
  | .path named _ => .path named
  | .token _ meant _ => .token meant

end Spelling

/-- A spelling with blanks around it. -/
structure Padded where
  before : List Char
  spelling : Spelling
  after : List Char
  blankBefore : ∀ c ∈ before, Text.isBlank c = true
  blankAfter : ∀ c ∈ after, Text.isBlank c = true

/-- The text of a padded spelling. -/
def Padded.text (padded : Padded) : List Char := padded.before ++ padded.spelling.text ++ padded.after

/-! ## Plain characters -/

/-- A plain character is none of the signs, no point and no blank. -/
theorem isPlain_iff {c : Char} :
    isPlain c = true ↔ c ∉ signs ∧ c ≠ '.' ∧ Text.isBlank c = false := by
  simp [isPlain, and_assoc]

/-- No sign is blank. -/
theorem not_sign_of_isBlank {c : Char} (blank : Text.isBlank c = true) : c ∉ signs := by
  have notBlank : ∀ sign ∈ signs, (!Text.isBlank sign) = true := List.all_eq_true.mp (by decide)
  intro member
  simpa [blank] using notBlank c member

/-- The word for a namespace is plain. -/
theorem isPlainWord_root (root : Namespace) : IsPlainWord root.text := by
  cases root <;> exact ⟨by decide, List.all_eq_true.mp (by decide)⟩

/-- The words of a path with plain segments are plain. -/
theorem isPlainWord_of_mem {named : Path} (plain : ∀ segment ∈ named.segments, IsPlainWord segment) :
    ∀ word ∈ named.root.text :: named.segments, IsPlainWord word := by
  intro word member
  rcases List.mem_cons.mp member with rfl | below
  · exact isPlainWord_root named.root
  · exact plain word below

/-- Plain words with points between them are spelled without signs and blanks. -/
theorem not_sign_of_mem_intercalate {words : List String} (plain : ∀ word ∈ words, IsPlainWord word) :
    ∀ c ∈ (".".intercalate words).toList, c ∉ signs ∧ Text.isBlank c = false := by
  induction words with
  | nil => simp
  | cons word rest ih =>
    have later := ih fun other member => plain other (by simp [member])
    have inWord : ∀ c ∈ word.toList, c ∉ signs ∧ Text.isBlank c = false := by
      intro c member
      obtain ⟨noSign, -, notBlank⟩ := isPlain_iff.mp ((plain word (by simp)).2 c member)
      exact ⟨noSign, notBlank⟩
    intro c member
    by_cases none : rest = []
    · rw [none, String.intercalate_singleton] at member
      exact inWord c member
    · rw [String.intercalate_cons_of_ne_nil none] at member
      simp only [String.toList_append, List.mem_append] at member
      rcases member with (here | point) | there
      · exact inWord c here
      · have isPoint : c = '.' := by simpa using point
        subst isPoint
        decide
      · exact later c there

/-- A path with plain segments is spelled without signs and blanks. -/
theorem not_sign_of_mem_path {named : Path} (plain : ∀ segment ∈ named.segments, IsPlainWord segment) :
    ∀ c ∈ named.text.toList, c ∉ signs ∧ Text.isBlank c = false :=
  not_sign_of_mem_intercalate (isPlainWord_of_mem plain)

/-! ## Passing over spellings -/

section

variable {Found : Type} {scan : Option Char → List Char → Option Found}
  {carry : Char → Found → Found}

/-- A scan that keeps to quotes, passes over what is no sign and over the spellings of tokens passes over
every spelling, with or without blanks around it. -/
theorem Padded.passes (keeps : KeepsToQuotes scan carry)
    (each : ∀ c, c ∉ signs → Passes scan carry none [c] none)
    (tokens : ∀ fixed ∈ tokenSpellings, Passes scan carry none fixed.1.toList none) (padded : Padded) :
    Passes scan carry none padded.text none := by
  have spelled : Passes scan carry none padded.spelling.text none := by
    cases padded.spelling with
    | quoted quote text isQuote inside => exact keeps.passes_quoted isQuote inside
    | path named plain =>
      exact Passes.of_forall fun c member => each c (not_sign_of_mem_path plain c member).1
    | token text meant fixed => exact tokens (text, meant) fixed
  have before : Passes scan carry none padded.before none :=
    Passes.of_forall fun c member => each c (not_sign_of_isBlank (padded.blankBefore c member))
  have after : Passes scan carry none padded.after none :=
    Passes.of_forall fun c member => each c (not_sign_of_isBlank (padded.blankAfter c member))
  exact (before.append spelled).append after

end

/-- A character that is no sign is no quote. -/
theorem isQuote_eq_false {c : Char} (noSign : c ∉ signs) : isQuote c = false := by
  simp only [signs, List.mem_cons, List.not_mem_nil, or_false, not_or] at noSign
  simp [isQuote, noSign]

/-- The scan for the closing brace goes over every character that is no sign. -/
theorem braceScan_passes_of_not_sign {c : Char} (noSign : c ∉ signs) :
    Passes braceScan intoSource none [c] none := by
  apply braceScan_passes (isQuote_eq_false noSign)
  · rintro rfl
    simp [signs] at noSign
  · rintro rfl
    simp [signs] at noSign

/-- So does the scan for the bars. -/
theorem cutScan_passes_of_not_sign {c : Char} (noSign : c ∉ signs) :
    Passes cutScan extend none [c] none := by
  apply cutScan_passes (isQuote_eq_false noSign)
  · rintro rfl
    simp [signs] at noSign
  · intro bracket
    have among : ∀ sign ∈ ['(', '[', ')', ']'], sign ∈ signs := by simp [signs]
    exact noSign (among c bracket)

/-- The scan for the closing brace passes over the tokens: what they have in quotes is closed. -/
theorem braceScan_passes_token :
    ∀ fixed ∈ tokenSpellings, Passes braceScan intoSource none fixed.1.toList none := by
  intro fixed member rest
  simp only [tokenSpellings, List.mem_cons, List.not_mem_nil, or_false] at member
  simp only [braceScan]
  cases found : matchingBrace none 0 rest <;>
    rcases member with rfl | rfl | rfl | rfl | rfl | rfl | rfl | rfl | rfl <;>
    simp [matchingBrace, isQuote, found, intoSource]

/-- The scan for the marks passes over the tokens: their parentheses and brackets are closed. -/
theorem cutScan_passes_token :
    ∀ fixed ∈ tokenSpellings, Passes cutScan extend none fixed.1.toList none := by
  intro fixed member rest
  simp only [tokenSpellings, List.mem_cons, List.not_mem_nil, or_false] at member
  simp only [cutScan]
  cases found : cut? none 0 rest <;>
    rcases member with rfl | rfl | rfl | rfl | rfl | rfl | rfl | rfl | rfl <;>
    simp [cut?, isQuote, found]

/-! ## Reading a spelling -/

/-- Blanks around an alternative make no difference. -/
theorem Padded.parse_text (padded : Padded) :
    Alternative.parse padded.text = Alternative.parse padded.spelling.text := by
  rw [Alternative.parse, Alternative.parse, Padded.text, Text.trim_pad padded.blankBefore padded.blankAfter]

/-- A quote is not blank. -/
theorem isBlank_of_isQuote {q : Char} (quote : isQuote q = true) : Text.isBlank q = false := by
  simp only [isQuote, Bool.or_eq_true, beq_iff_eq] at quote
  rcases quote with rfl | rfl <;> decide

/-- A quoted text is read as what stands in the quotes. -/
theorem parse_quoted {q : Char} (quote : isQuote q = true) (text : List Char) :
    Alternative.parse (q :: (text ++ [q])) = .ok (.literal (String.ofList text)) := by
  have kept : Text.trim (q :: (text ++ [q])) = q :: (text ++ [q]) := by
    apply Text.trim_eq_self
    · simpa using isBlank_of_isQuote quote
    · simpa [List.getLast?_cons] using isBlank_of_isQuote quote
  rw [Alternative.parse, kept]
  simp [quote]

/-- A fixed spelling of a token is read as that token. -/
theorem parse_token :
    ∀ fixed ∈ tokenSpellings, Alternative.parse fixed.1.toList = .ok (.token fixed.2) := by
  intro fixed member
  simp only [tokenSpellings, List.mem_cons, List.not_mem_nil, or_false] at member
  rcases member with rfl | rfl | rfl | rfl | rfl | rfl | rfl | rfl | rfl <;> rfl

/-- A plain word is a name. -/
theorem IsPlainWord.isName {word : String} (plain : IsPlainWord word) : Path.IsName word.toList where
  nonempty := by simpa using plain.1
  solid c member := (isPlain_iff.mp (plain.2 c member)).2.2
  unopened member := (isPlain_iff.mp (plain.2 '[' member)).1 (by decide)
  unpointed member := (isPlain_iff.mp (plain.2 '.' member)).2.1 rfl

/-- A plain word is one part of a path, without indices. -/
theorem part?_plain {word : String} (plain : IsPlainWord word) : Path.part? word.toList = some [word] := by
  refine (Path.part?_eq_some_iff plain.isName.unpointed).mpr ⟨.ofName word.toList plain.isName, ?_, ?_⟩
  · exact List.append_nil word.toList
  · simp [Path.Part.words, Path.Part.ofName]

/-- Plain words are the parts of a path. -/
theorem parts?_plain {words : List String} (plain : ∀ word ∈ words, IsPlainWord word) :
    Path.parts? (words.map String.toList) = some words := by
  induction words with
  | nil => rfl
  | cons word rest ih =>
    have later := ih fun other member => plain other (by simp [member])
    simp [Path.parts?, part?_plain (plain word (by simp)), later]

/-- Plain words with points between them are taken apart into these words. -/
theorem parts?_splitOn {words : List String} (plain : ∀ word ∈ words, IsPlainWord word)
    (nonempty : words ≠ []) : Path.parts? ((".".intercalate words).toList.splitOn '.') = some words := by
  have noPoint : ∀ word ∈ words.map String.toList, '.' ∉ word := by
    intro text member point
    obtain ⟨word, among, rfl⟩ := List.mem_map.mp member
    exact (plain word among).isName.unpointed point
  have parts : (".".intercalate words).toList.splitOn '.' = words.map String.toList := by
    rw [String.toList_intercalate]
    exact List.splitOn_intercalate '.' noPoint (by simpa using nonempty)
  rw [parts, parts?_plain plain]

/-- Plain words with points between them have no blank to trim. -/
theorem trim_intercalate {words : List String} (plain : ∀ word ∈ words, IsPlainWord word) :
    Text.trim (".".intercalate words).toList = (".".intercalate words).toList := by
  have notBlank : ∀ c ∈ (".".intercalate words).toList, Text.isBlank c = false :=
    fun c member => (not_sign_of_mem_intercalate plain c member).2
  exact Text.trim_eq_self (fun c begins => notBlank c (List.mem_of_mem_head? begins))
    (fun c ends => notBlank c (List.mem_of_mem_getLast? ends))

/-- Plain words with points between them are read as a path if the first is the word for a namespace and
others follow. -/
theorem parse_intercalate {first : String} {rest : List String}
    (plain : ∀ word ∈ first :: rest, IsPlainWord word) :
    Path.parse (".".intercalate (first :: rest)).toList =
      match Namespace.ofText? first with
      | none => .error (.unknownNamespace first)
      | some root =>
        if nonempty : rest ≠ [] then .ok ⟨root, rest, nonempty⟩
        else .error (.invalidPath (".".intercalate (first :: rest))) := by
  have nonempty : (".".intercalate (first :: rest)).toList.isEmpty = false := by
    have first_nonempty : first ≠ "" := (plain first (by simp)).1
    by_cases none : rest = []
    · simp [none, first_nonempty]
    · simp [String.intercalate_cons_of_ne_nil none, first_nonempty]
  rw [Path.parse, trim_intercalate plain, parts?_splitOn plain (List.cons_ne_nil _ _)]
  simp only [nonempty, String.ofList_toList]
  rfl

/-- A path is spelled with the word for its namespace, a point and more. -/
theorem exists_path_text (named : Path) :
    ∃ rest, named.text.toList = named.root.text.toList ++ '.' :: rest := by
  refine ⟨(".".intercalate named.segments).toList, ?_⟩
  rw [Path.text, String.intercalate_cons_of_ne_nil named.nonempty]
  simp

section

variable {named : Path} (plain : ∀ segment ∈ named.segments, IsPlainWord segment)

include plain

/-- A path with plain segments has no blank to trim. -/
theorem trim_path : Text.trim named.text.toList = named.text.toList :=
  trim_intercalate (isPlainWord_of_mem plain)

/-- A path with plain segments is read back from its text. -/
theorem parse_path_text : Path.parse named.text.toList = .ok named := by
  rw [Path.text, parse_intercalate (isPlainWord_of_mem plain)]
  simp [Namespace.ofText?_text, named.nonempty]

/-- A path is not mistaken for a token: it has a point and no parenthesis. -/
theorem ofText?_path : Token.ofText? named.text.toList = none := by
  have noParenthesis : '(' ∉ named.text.toList :=
    fun member => (not_sign_of_mem_path plain '(' member).1 (by decide)
  have point : '.' ∈ named.text.toList := by
    obtain ⟨rest, whole⟩ := exists_path_text named
    simp [whole]
  have noSpelling : ∀ word ∈ tokenSpellings.map Prod.fst, named.text ≠ word := by
    intro word member same
    have spelled : ∀ word ∈ tokenSpellings.map Prod.fst, '.' ∉ word.toList ∨ '(' ∈ word.toList := by
      decide
    rw [same] at point noParenthesis
    exact (spelled word member).elim (· point) noParenthesis
  have noClock : Text.occursIn clockText named.text.toList = false := by
    rw [Bool.eq_false_iff, ne_eq, Text.occursIn_iff]
    exact fun occurs => noParenthesis (occurs.subset (by decide))
  rw [Token.ofText?, trim_path plain, String.ofList_toList, noClock]
  split
  case h_10 => rfl
  all_goals
    rename_i same
    exact absurd same (noSpelling _ (by decide))

/-- A path with plain segments is read as that path. -/
theorem parse_path : Alternative.parse named.text.toList = .ok (.path named) := by
  obtain ⟨rest, whole⟩ := exists_path_text named
  have head : named.text.toList.takeWhile (fun c => c != '.' && c != '[') = named.root.text.toList := by
    have within : ∀ c ∈ named.root.text.toList, (c != '.' && c != '[') = true := by
      cases named.root <;> exact List.all_eq_true.mp (by decide)
    rw [whole, List.takeWhile_append_of_pos within]
    simp
  obtain ⟨c, tail, begins⟩ := List.exists_cons_of_ne_nil
    (show named.text.toList ≠ [] by simp [whole])
  have noQuote : isQuote c = false := by
    have member : c ∈ named.text.toList := by simp [begins]
    exact isQuote_eq_false (not_sign_of_mem_path plain c member).1
  rw [Alternative.parse, trim_path plain]
  simp only [begins, noQuote]
  rw [← begins, ofText?_path plain, head]
  simp [Namespace.ofText?_text, parse_path_text plain, Except.map]

end

/-- Reading a padded spelling gives the alternative that is spelled. -/
theorem Padded.parse_eq (padded : Padded) :
    Alternative.parse padded.text = .ok padded.spelling.meaning := by
  rw [padded.parse_text]
  cases padded.spelling with
  | quoted quote text isQuote inside => exact parse_quoted isQuote text
  | path named plain => exact parse_path plain
  | token text meant fixed => exact parse_token (text, meant) fixed

end Stepwise.Template
