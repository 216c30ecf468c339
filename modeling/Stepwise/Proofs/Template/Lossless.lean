import Mathlib.Data.List.Chain
import Stepwise.Proofs.Template.Scanning

/-!
# Scanning loses nothing and overlooks nothing

The texts of the segments that a scan finds are the text that was scanned. What is left as literal text has
no opening of a hole but those that begin none: with only blanks before the next brace, or with no brace
behind. Literal text is gathered while such openings are passed over, so the scan keeps to an invariant on
the text that it has passed: its openings are settled, and no opening goes on into what is still to be
scanned.
-/

set_option autoImplicit false

namespace Stepwise.Template

open Stepwise.Text

/-- What stands behind an opening makes it a blank hole: blanks and then a brace. -/
def ClosesBlank (behind : List Char) : Prop :=
  ∃ blanks rest, (∀ c ∈ blanks, isBlank c = true) ∧ behind = blanks ++ '}' :: rest

/-- A segment of literal text. -/
def Segment.IsLiteral : Segment → Prop
  | .literal _ => True
  | .hole _ => False

/-- A scan of a text that is lossless and complete. -/
structure IsFaithful (text : List Char) (segments : List Segment) : Prop where
  /-- The texts of the segments are the text. -/
  texts : segments.flatMap Segment.text = text
  /-- No literal text is empty, and no two stand side by side. -/
  nonempty : .literal [] ∉ segments
  apart : segments.IsChain fun segment next => ¬ (segment.IsLiteral ∧ next.IsLiteral)
  /-- A hole is its source, which is not blank, in its signs. -/
  holes : ∀ source, .hole source ∈ segments →
    IsSubstantial source ∧ (Segment.hole source).text = '$' :: '{' :: (source ++ ['}'])
  /-- Every opening in literal text is that of a blank hole, or no brace stands behind it. -/
  openings : ∀ front literal back, segments = front ++ .literal literal :: back →
    ∀ before behind, literal = before ++ opening ++ behind →
      ClosesBlank behind ∨ '}' ∉ behind ++ back.flatMap Segment.text
  /-- A hole is the only segment of its text. -/
  alone : ∀ source, .hole source ∈ segments → parse (Segment.hole source).text = [.hole source]

/-! ## Literal text -/

/-- A literal text stands as it is. -/
theorem text_literal (text : List Char) : (Segment.literal text).text = text := rfl

/-- Text passed over makes one literal segment, or none when there is no text. -/
theorem literally_cases (text : List Char) :
    text = [] ∧ literally text = [] ∨ text ≠ [] ∧ literally text = [.literal text] := by
  cases text
  · exact .inl ⟨rfl, rfl⟩
  · exact .inr ⟨List.cons_ne_nil _ _, rfl⟩

/-- The segment it makes is the text itself, and not empty. -/
theorem mem_literally {segment : Segment} {text : List Char} :
    segment ∈ literally text ↔ text ≠ [] ∧ segment = .literal text := by
  rcases literally_cases text with ⟨empty, eq⟩ | ⟨nonempty, eq⟩
  · rw [eq]
    simp [empty]
  · rw [eq]
    simp [nonempty]

/-- Text passed over makes no hole. -/
theorem hole_not_mem_literally (source text : List Char) : Segment.hole source ∉ literally text := by
  simp [mem_literally]

/-- Nor does it make an empty literal. -/
theorem literal_nil_not_mem_literally (text : List Char) : Segment.literal [] ∉ literally text := by
  rw [mem_literally]
  rintro ⟨nonempty, same⟩
  cases same
  exact nonempty rfl

/-- A literal text of segments that begin with literal text is that text or one of the others. -/
theorem eq_or_of_literally_append {text literal : List Char} {segments front back : List Segment}
    (whole : literally text ++ segments = front ++ .literal literal :: back) :
    text = literal ∧ back = segments ∨ ∃ others, segments = others ++ .literal literal :: back := by
  rcases literally_cases text with ⟨-, eq⟩ | ⟨-, eq⟩
  · rw [eq, List.nil_append] at whole
    exact .inr ⟨front, whole⟩
  · rw [eq, List.singleton_append] at whole
    cases front with
    | nil =>
      cases whole
      exact .inl ⟨rfl, rfl⟩
    | cons first front =>
      simp only [List.cons_append, List.cons.injEq] at whole
      exact .inr ⟨front, whole.2⟩

/-! ## The scan -/

/-- The scanner loses no character: its segments' texts are what was passed and what it was given.
-/
theorem flatMap_scan (passed text : List Char) : (scan passed text).flatMap Segment.text = passed ++ text := by
  fun_induction scan with
  | case1 passed text => exact flatMap_literally text_literal _
  | case2 passed text => exact flatMap_literally text_literal _
  | case3 passed text before body found source rest closed blank ih =>
    rw [ih, breakAt_eq_some found, closeHole_eq_some closed]
    simp [Segment.text]
  | case4 passed text before body found source rest closed notBlank ih =>
    rw [List.flatMap_append, flatMap_literally text_literal, List.flatMap_cons, ih, breakAt_eq_some found,
      closeHole_eq_some closed]
    simp [Segment.text]

/-- The scanner makes no empty literal. -/
theorem literal_nil_not_mem_scan (passed text : List Char) : Segment.literal [] ∉ scan passed text := by
  fun_induction scan with
  | case1 passed text => exact literal_nil_not_mem_literally _
  | case2 passed text => exact literal_nil_not_mem_literally _
  | case3 passed text before body found source rest closed blank ih => exact ih
  | case4 passed text before body found source rest closed notBlank ih =>
    simp [literal_nil_not_mem_literally, ih]

/-- The scanner never puts one literal beside another. -/
theorem isChain_scan (passed text : List Char) :
    (scan passed text).IsChain fun segment next => ¬ (segment.IsLiteral ∧ next.IsLiteral) := by
  have front : ∀ text segments,
      (segments.IsChain fun segment next => ¬ (Segment.IsLiteral segment ∧ Segment.IsLiteral next)) →
      (∀ next ∈ segments.head?, ¬ next.IsLiteral) →
      (literally text ++ segments).IsChain fun segment next => ¬ (segment.IsLiteral ∧ next.IsLiteral) := by
    intro text segments chain first
    rcases literally_cases text with ⟨-, eq⟩ | ⟨-, eq⟩
    · rwa [eq, List.nil_append]
    · rw [eq, List.singleton_append]
      exact chain.cons fun next head both => first next head both.2
  have alone : ∀ text, (literally text).IsChain fun segment next => ¬ (segment.IsLiteral ∧ next.IsLiteral) := by
    intro text
    have chain := front text [] .nil (by simp)
    rwa [List.append_nil] at chain
  fun_induction scan with
  | case1 passed text => exact alone _
  | case2 passed text => exact alone _
  | case3 passed text before body found source rest closed blank ih => exact ih
  | case4 passed text before body found source rest closed notBlank ih =>
    apply front
    · exact ih.cons fun next _ both => both.1
    · simp [Segment.IsLiteral]

/-- Every hole that the scanner makes closes at the end of its source. -/
theorem closeHole_of_mem_scan (passed text : List Char) :
    ∀ source, Segment.hole source ∈ scan passed text → closeHole (source ++ ['}']) = some (source, []) := by
  fun_induction scan with
  | case1 passed text => exact fun source member => absurd member (hole_not_mem_literally source _)
  | case2 passed text => exact fun source member => absurd member (hole_not_mem_literally source _)
  | case3 passed text before body found source rest closed blank ih => exact ih
  | case4 passed text before body found source rest closed notBlank ih =>
    intro other member
    rcases List.mem_append.mp member with front | behind
    · exact absurd front (hole_not_mem_literally other _)
    · rcases List.mem_cons.mp behind with same | later
      · cases same
        rw [closeHole_eq_some closed] at closed
        exact closeHole_alone closed
      · exact ih other later

/-! ## Openings in literal text -/

/-- Text that was passed over: its openings are those of blank holes, and none goes on behind it. -/
structure Settled (passed : List Char) : Prop where
  blank : ∀ before behind, passed = before ++ opening ++ behind → ClosesBlank behind
  ends : passed.getLast? ≠ some '$'

/-- The empty text is settled. -/
theorem Settled.nil : Settled [] where
  blank before behind whole := by simp [opening] at whole
  ends := by simp

/-- A blank hole stays one, whatever follows. -/
theorem ClosesBlank.append {behind : List Char} (closes : ClosesBlank behind) (more : List Char) :
    ClosesBlank (behind ++ more) := by
  obtain ⟨blanks, rest, blank, rfl⟩ := closes
  exact ⟨blanks, rest ++ more, blank, by simp⟩

/-- An opening in text that begins with settled text is settled, or lies in what follows. -/
theorem Settled.cases {passed text before behind : List Char} (settled : Settled passed)
    (whole : passed ++ text = before ++ opening ++ behind) :
    ClosesBlank behind ∨ ∃ front, text = front ++ opening ++ behind := by
  rw [List.append_assoc] at whole
  rcases List.append_eq_append_iff.mp whole with ⟨front, rfl, eq⟩ | ⟨inside, rfl, eq⟩
  · exact .inr ⟨front, by rw [eq, List.append_assoc]⟩
  · -- the opening begins in the settled text; it lies there as a whole, unless only its dollar does
    rcases inside with _ | ⟨c, _ | ⟨d, inside⟩⟩
    · exact .inr ⟨[], by simpa using eq.symm⟩
    · have dollar : c = '$' := by simpa [opening] using (List.cons.inj eq).1.symm
      exact absurd (by simp [dollar]) settled.ends
    · simp only [opening, List.cons_append, List.nil_append, List.cons.injEq] at eq
      obtain ⟨rfl, rfl, rfl⟩ := eq
      exact .inl ((settled.blank before inside (by simp [opening])).append text)

section

variable {passed text before body : List Char} (settled : Settled passed)
  (found : breakAt opening text = some (before, body))

include settled found

/-- The text before the first opening is settled but for its end. -/
theorem Settled.blank_before {front behind : List Char} (whole : passed ++ before = front ++ opening ++ behind) :
    ClosesBlank behind := by
  rcases settled.cases whole with closes | ⟨inside, eq⟩
  · exact closes
  · have earlier : text = inside ++ opening ++ (behind ++ opening ++ body) := by
      rw [breakAt_eq_some found, eq]
      simp
    have size := (breakAt_first found earlier).1.length_le
    have width : opening.length = 2 := rfl
    rw [eq] at size
    simp only [List.length_append] at size
    omega

/-- Passing over a blank hole leaves settled text. -/
theorem Settled.append_hole {source rest : List Char} (closed : body = source ++ '}' :: rest)
    (blank : source.all isBlank = true) : Settled (passed ++ before ++ (Segment.hole source).text) where
  blank front behind whole := by
    rw [List.append_assoc] at whole
    rcases settled.cases whole with closes | ⟨inside, eq⟩
    · exact closes
    · have text_eq : text = inside ++ opening ++ (behind ++ rest) := by
        rw [← List.append_assoc, ← eq, breakAt_eq_some found, closed]
        simp [Segment.text]
      obtain ⟨between, rfl⟩ := (breakAt_first found text_eq).1
      rw [List.append_assoc, List.append_assoc, List.append_cancel_left_eq] at eq
      cases between with
      | nil =>
        -- the opening is that of the hole itself
        simp only [Segment.text, List.append_assoc, List.nil_append, List.append_cancel_left_eq] at eq
        exact ⟨source, [], List.all_eq_true.mp blank, eq.symm⟩
      | cons c between =>
        -- there is no dollar behind it
        have dollar : '$' ∈ '{' :: (source ++ ['}']) := by
          simp only [Segment.text, opening, List.cons_append, List.nil_append, List.cons.injEq] at eq
          rw [eq.2]
          simp
        have inSource : '$' ∈ source := by simpa using dollar
        exact absurd (List.all_eq_true.mp blank '$' inSource) (by decide)
  ends := by simp [Segment.text]

end

/-- Behind an opening in literal text stands the brace of a blank hole, or no brace at all. -/
theorem openings_scan {passed text : List Char} (settled : Settled passed) :
    ∀ front literal back, scan passed text = front ++ .literal literal :: back →
      ∀ before behind, literal = before ++ opening ++ behind →
        ClosesBlank behind ∨ '}' ∉ behind ++ back.flatMap Segment.text := by
  fun_induction scan with
  | case1 passed text found =>
    intro front literal back whole before behind occurs
    rw [← List.append_nil (literally _)] at whole
    rcases eq_or_of_literally_append whole with ⟨rfl, -⟩ | ⟨others, nothing⟩
    · rcases settled.cases occurs with closes | ⟨inside, eq⟩
      · exact .inl closes
      · have absent : occursIn opening text = true := occursIn_iff.mpr ⟨inside, behind, eq.symm⟩
        rw [occursIn, found] at absent
        cases absent
    · simp at nothing
  | case2 passed text first body found isOpen =>
    intro front literal back whole before behind occurs
    rw [← List.append_nil (literally _)] at whole
    rcases eq_or_of_literally_append whole with ⟨rfl, rfl⟩ | ⟨others, nothing⟩
    · rcases settled.cases occurs with closes | ⟨inside, eq⟩
      · exact .inl closes
      · have within := (breakAt_first found eq).2
        have noBrace := closeHole_eq_none_iff.mp isOpen
        exact .inr (by simpa using fun member => noBrace (within.subset member))
    · simp at nothing
  | case3 passed text first body found source rest closed blank ih =>
    exact ih (settled.append_hole found (closeHole_eq_some closed) blank)
  | case4 passed text first body found source rest closed notBlank ih =>
    intro front literal back whole before behind occurs
    rcases eq_or_of_literally_append whole with ⟨rfl, -⟩ | ⟨others, eq⟩
    · exact .inl (settled.blank_before found occurs)
    · -- a literal text of the segments behind the hole
      cases others with
      | nil => cases eq
      | cons hole others =>
        simp only [List.cons_append, List.cons.injEq] at eq
        exact ih .nil others literal back eq.2 before behind occurs

/-! ## Faithful scans -/

/-- Every scan of a template is lossless and complete. -/
theorem parse_isFaithful (text : List Char) : IsFaithful text (parse text) where
  texts := flatMap_scan [] text
  nonempty := literal_nil_not_mem_scan [] text
  apart := isChain_scan [] text
  holes source member := ⟨substantial_of_mem_scan [] text source member, rfl⟩
  openings := openings_scan .nil
  alone source member := by
    have ends := closeHole_of_mem_scan [] text source member
    have substantial := substantial_of_mem_scan [] text source member
    have closed : ¬ opening <:+: [] := by simp [opening]
    have found := scan_closed closed ends substantial
    rw [List.append_nil, List.nil_append] at found
    rw [parse, found, scan_literal closed]
    rfl

end Stepwise.Template
