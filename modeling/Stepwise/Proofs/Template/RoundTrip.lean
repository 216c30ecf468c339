import Mathlib.Data.List.Chain
import Stepwise.Proofs.Template.Scanning
import Stepwise.Proofs.Template.Spelling

/-!
# Templates are read back from their print

A template is printed from literal texts and holes, and a hole from the spellings of its alternatives with
`||` between them. Whatever stands in the quotes of the alternatives, scanning the print finds the same
pieces again, and reading the source of a hole finds the same alternatives.
-/

set_option autoImplicit false

namespace Stepwise.Template

open Stepwise.Text

/-! ## Sources of holes -/

/-- The mark between alternatives. -/
def bars : List Char := ['|', '|']

/-- The source of a hole with the given alternatives. -/
def source (alternatives : List Padded) : List Char := join bars (alternatives.map Padded.text)

/-- A single alternative is a hole's source by itself. -/
theorem source_singleton (padded : Padded) : source [padded] = padded.text := rfl

/-- A mark stands behind the first of several alternatives. -/
theorem source_cons (padded : Padded) {rest : List Padded} (several : rest ≠ []) :
    source (padded :: rest) = padded.text ++ bars ++ source rest := by
  rw [source, List.map_cons, join_cons bars padded.text (by simpa using several), source]

/-- The scan for the closing brace passes over a source. -/
theorem braceScan_passes_source (alternatives : List Padded) :
    Passes braceScan intoSource none (source alternatives) none := by
  have each : ∀ padded : Padded, Passes braceScan intoSource none padded.text none :=
    Padded.passes braceScan_keepsToQuotes (fun _ noSign => braceScan_passes_of_not_sign noSign)
      braceScan_passes_token
  have mark : Passes braceScan intoSource none bars none := by
    apply Passes.of_forall
    intro c member
    have bar : c = '|' := by simpa [bars] using member
    subst bar
    exact braceScan_passes (by decide) (by decide) (by decide)
  induction alternatives with
  | nil => exact Passes.nil none
  | cons padded rest ih =>
    by_cases single : rest = []
    · rw [single, source_singleton]
      exact each padded
    · rw [source_cons padded single]
      exact ((each padded).append mark).append ih

/-- The scan for the marks cuts at one. -/
theorem cutScan_bars (rest : List Char) :
    cutScan none (bars ++ rest) = (cutScan none rest).map ([] :: ·) := by
  simp [cutScan, bars, cut?]

/-- A source is cut into the texts of its alternatives. -/
theorem cut?_source {alternatives : List Padded} (nonempty : alternatives ≠ []) :
    cut? none 0 (source alternatives) = some (alternatives.map Padded.text) := by
  have each : ∀ padded : Padded, Passes cutScan extend none padded.text none :=
    Padded.passes cutScan_keepsToQuotes (fun _ noSign => cutScan_passes_of_not_sign noSign)
      cutScan_passes_token
  have carried : ∀ (text piece : List Char) (pieces : List (List Char)),
      text.foldr extend (piece :: pieces) = (text ++ piece) :: pieces := by
    intro text piece pieces
    induction text with
    | nil => rfl
    | cons c text ih => simp [ih, extend]
  induction alternatives with
  | nil => exact absurd rfl nonempty
  | cons padded rest ih =>
    by_cases single : rest = []
    · have whole : cutScan none (padded.text ++ []) = _ := each padded []
      rw [List.append_nil] at whole
      simpa [single, source_singleton, cutScan, cut?, carried] using whole
    · have later : cutScan none (source rest) = some (rest.map Padded.text) := ih single
      have whole : cutScan none (padded.text ++ (bars ++ source rest)) = _ := each padded _
      rw [cutScan_bars, later, Option.map_some, Option.map_some, carried, List.append_nil] at whole
      rw [source_cons padded single, List.append_assoc]
      exact whole

/-- Reading a source gives its alternatives. -/
theorem parse_source {alternatives : List Padded} (nonempty : alternatives ≠ []) :
    Expression.parse (source alternatives) =
      .ok (alternatives.map fun padded => padded.spelling.meaning) := by
  rw [Expression.parse, cut?_source nonempty]
  simp only
  clear nonempty
  induction alternatives with
  | nil => rfl
  | cons padded rest ih =>
    rw [List.map_cons, List.mapM_cons, padded.parse_eq, ih]
    rfl

/-- Every spelling is more than blanks. -/
theorem Spelling.substantial (spelling : Spelling) : IsSubstantial spelling.text := by
  cases spelling with
  | quoted quote text isQuote inside => exact ⟨quote, by simp [Spelling.text], isBlank_of_isQuote isQuote⟩
  | path named plain =>
    obtain ⟨rest, whole⟩ := exists_path_text named
    exact ⟨'.', by simp [Spelling.text, whole], by decide⟩
  | token text meant fixed =>
    have each : ∀ fixed ∈ tokenSpellings, fixed.1.toList.any (fun c => !isBlank c) = true := by decide
    simpa [IsSubstantial, Spelling.text] using each (text, meant) fixed

/-- A source with an alternative is more than blanks. -/
theorem source_substantial {alternatives : List Padded} (nonempty : alternatives ≠ []) :
    IsSubstantial (source alternatives) := by
  obtain ⟨padded, rest, rfl⟩ := List.exists_cons_of_ne_nil nonempty
  have first : IsSubstantial padded.text :=
    (padded.spelling.substantial.append_left padded.before).append_right padded.after
  by_cases single : rest = []
  · rw [single, source_singleton]
    exact first
  · rw [source_cons padded single, List.append_assoc]
    exact first.append_right _

/-! ## Pieces of templates -/

/-- A piece that a template is printed from: a literal text that opens no hole, or a hole. -/
inductive Piece where
  | literal (text : List Char) (nonempty : text ≠ []) (closed : ¬ opening <:+: text)
  | hole (alternatives : List Padded) (nonempty : alternatives ≠ [])

namespace Piece

/-- A piece as it is printed. -/
def text : Piece → List Char
  | .literal text _ _ => text
  | .hole alternatives _ => opening ++ source alternatives ++ ['}']

/-- The segment that a piece is read as. -/
def segment : Piece → Segment
  | .literal text _ _ => .literal text
  | .hole alternatives _ => .hole (source alternatives)

/-- Whether a piece is a literal text. -/
def IsLiteral : Piece → Prop
  | .literal _ _ _ => True
  | .hole _ _ => False

/-- The text of the segment is what was printed. -/
theorem segment_text (piece : Piece) : piece.segment.text = piece.text := by
  cases piece <;> rfl

end Piece

/-- The source of a hole with an alternative ends at the brace behind it. -/
theorem source_closesItself (alternatives : List Padded) : ClosesItself (source alternatives) :=
  braceScan_closes (braceScan_passes_source alternatives) []

/-- Scanning undoes printing. -/
theorem parse_text {pieces : List Piece}
    (apart : pieces.IsChain fun piece next => ¬ (piece.IsLiteral ∧ next.IsLiteral)) :
    parse (pieces.flatMap Piece.text) = pieces.map Piece.segment := by
  unfold parse
  induction pieces with
  | nil => simp [scan, breakAt, opening, literally]
  | cons piece rest ih =>
    have later := ih apart.tail
    have none_before : ¬ opening <:+: [] := by simp [opening]
    cases piece with
    | hole alternatives nonempty =>
      have found := scan_hole none_before (source_closesItself alternatives) (source_substantial nonempty)
        (rest.flatMap Piece.text)
      rw [later] at found
      exact found
    | literal text nonempty closed =>
      have alone : literally text = [.literal text] := by simp [literally, nonempty]
      cases rest with
      | nil =>
        have found := scan_literal closed
        rw [alone] at found
        simpa [Piece.text, Piece.segment] using found
      | cons next rest =>
        cases next with
        | literal other otherNonempty otherClosed =>
          exact absurd ⟨trivial, trivial⟩ (List.isChain_cons_cons.mp apart).1
        | hole alternatives nonempty =>
          -- the induction hypothesis begins at the hole, so the hole is taken off it
          have closes := source_closesItself alternatives
          have substantial := source_substantial nonempty
          have again := scan_hole none_before closes substantial (rest.flatMap Piece.text)
          have behind : scan [] (rest.flatMap Piece.text) = rest.map Piece.segment :=
            (List.cons.inj (again.symm.trans later)).2
          have found := scan_hole closed closes substantial (rest.flatMap Piece.text)
          rw [alone, behind] at found
          exact found

/-- Parsing undoes printing. From the print of pieces, no two literal texts of which stand side by side, the
scan finds the same pieces with the same texts, and reading the source of a hole finds the same
alternatives. -/
theorem parse_print (pieces : List Piece)
    (apart : pieces.IsChain fun piece next => ¬ (piece.IsLiteral ∧ next.IsLiteral)) :
    parse (pieces.flatMap Piece.text) = pieces.map Piece.segment ∧
    (parse (pieces.flatMap Piece.text)).map Segment.text = pieces.map Piece.text ∧
    ∀ alternatives nonempty, Piece.hole alternatives nonempty ∈ pieces →
      Expression.parse (source alternatives) =
        .ok (alternatives.map fun padded => padded.spelling.meaning) := by
  have parsed := parse_text apart
  refine ⟨parsed, ?_, fun alternatives nonempty _ => parse_source nonempty⟩
  rw [parsed, List.map_map]
  exact List.map_congr_left fun piece _ => piece.segment_text

/-- A path, a quoted text with signs in it, and a token as the alternatives of a hole. -/
def namedOrNow : List Padded :=
  [⟨[], .path ⟨.vars, ["name"], by decide⟩ (by simp [IsPlainWord, isPlain, signs, isBlank]), [' '],
      by simp, List.all_eq_true.mp (by decide)⟩,
    ⟨[' '], .quoted '\'' "|| \x7d".toList (by decide) (by decide), [],
      List.all_eq_true.mp (by decide), by simp⟩,
    ⟨[], .token "now" .timestamp (by decide), [], by simp, by simp⟩]

/-- A greeting: a literal text that ends like an opening begins, a hole, and a literal text behind it. -/
def Piece.greeting : List Piece :=
  [.literal "Dear $".toList (by decide) (by decide +kernel), .hole namedOrNow (by simp [namedOrNow]),
    .literal "!".toList (by decide) (by decide)]

/-- The greeting is read back from its print, and the alternatives from the source of its hole. -/
theorem parse_print_greeting :
    Piece.greeting.flatMap Piece.text =
      "Dear $$\x7bvars.name || '|| \x7d'||now\x7d!".toList ∧
    (Piece.greeting.IsChain fun piece next => ¬ (piece.IsLiteral ∧ next.IsLiteral)) ∧
    parse (Piece.greeting.flatMap Piece.text) =
      [.literal "Dear $".toList, .hole "vars.name || '|| \x7d'||now".toList, .literal "!".toList] ∧
    Expression.parse (source namedOrNow) =
      .ok [.path ⟨.vars, ["name"], by decide⟩, .literal "|| \x7d", .token .timestamp] := by
  have apart : Piece.greeting.IsChain fun piece next => ¬ (piece.IsLiteral ∧ next.IsLiteral) := by
    simp [Piece.greeting, Piece.IsLiteral]
  obtain ⟨parsed, -, read⟩ := parse_print Piece.greeting apart
  refine ⟨by decide +kernel, apart, ?_, ?_⟩
  · rw [parsed]
    decide +kernel
  · exact read namedOrNow (by simp [namedOrNow]) (by simp [Piece.greeting])

end Stepwise.Template
