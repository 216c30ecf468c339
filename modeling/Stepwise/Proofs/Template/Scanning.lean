import Stepwise.Proofs.Text.Cutting
import Stepwise.Template.Segment

/-!
# What a scan finds

A source ends at the brace behind it if the scan for the closing brace finds that one. Such a hole is found
again wherever it stands, with the literal text before it, and what stands behind the brace is scanned on its
own. So the texts of such holes and of literal texts without a dollar are scanned to the same segments again,
with neighbouring literal texts fused.
-/

set_option autoImplicit false

namespace Stepwise.Template

open Stepwise.Text

/-! ## Closing braces -/

/-- Whether the brace behind a source closes it does not depend on the text behind the brace. -/
theorem matchingBrace_congr {quote : Option Char} {depth : Nat} {source rest : List Char}
    (found : matchingBrace quote depth (source ++ '}' :: rest) = some (source, rest)) (other : List Char) :
    matchingBrace quote depth (source ++ '}' :: other) = some (source, other) := by
  induction source generalizing quote depth with
  | nil =>
    rw [List.nil_append, matchingBrace.eq_def] at found ⊢
    simp only at found ⊢
    cases quote with
    | some q =>
      simp only at found
      split_ifs at found <;> simp at found
    | none =>
      by_cases outermost : depth = 0
      · simp [isQuote, outermost]
      · simp [isQuote, outermost] at found
  | cons c source ih =>
    -- every case of the scan but the end goes on behind the character, in some quote and at some depth
    have skipped : ∀ {q : Option Char} {d : Nat},
        (matchingBrace q d (source ++ '}' :: rest)).map (fun found => (c :: found.1, found.2)) =
          some (c :: source, rest) →
        (matchingBrace q d (source ++ '}' :: other)).map (fun found => (c :: found.1, found.2)) =
          some (c :: source, other) := by
      intro q d found
      obtain ⟨⟨inside, behind⟩, later, eq⟩ := Option.map_eq_some_iff.mp found
      simp only [Prod.mk.injEq, List.cons.injEq, true_and] at eq
      obtain ⟨rfl, rfl⟩ := eq
      rw [ih later]
      rfl
    rw [List.cons_append, matchingBrace.eq_def] at found ⊢
    simp only at found ⊢
    cases quote with
    | some q =>
      simp only at found ⊢
      split_ifs at found ⊢ <;> exact skipped found
    | none =>
      simp only at found ⊢
      split_ifs at found ⊢
      · exact skipped found
      · exact skipped found
      · simp at found
      · exact skipped found
      · exact skipped found

/-- A source ends at the brace behind it. -/
def ClosesItself (source : List Char) : Prop := matchingBrace none 0 (source ++ ['}']) = some (source, [])

/-- Whether a source closes itself can be decided. -/
instance (source : List Char) : Decidable (ClosesItself source) := inferInstanceAs (Decidable (_ = _))

/-- The scan for the closing brace finds the one behind a source, whatever stands behind that, exactly if
the source ends at its brace. -/
theorem closesItself_iff {source : List Char} (rest : List Char) :
    ClosesItself source ↔ matchingBrace none 0 (source ++ '}' :: rest) = some (source, rest) :=
  ⟨fun closes => matchingBrace_congr closes rest, fun found => matchingBrace_congr found []⟩

/-! ## Holes and literal texts -/

/-- A text without an opening meets none before the one that stands behind it. -/
theorem not_opening_append {text : List Char} (closed : ¬ opening <:+: text) :
    ¬ opening <:+: text ++ opening.dropLast := by
  intro occurs
  rcases List.infix_concat_iff.mp occurs with atEnd | inside
  · have last := atEnd.getLast (by simp [opening])
    simp [opening] at last
  · exact closed inside

/-- A hole stays open only if no brace closes it. -/
theorem closeHole_eq_none_iff {body : List Char} : closeHole body = none ↔ '}' ∉ body := by
  constructor
  · intro isOpen member
    rw [closeHole, Option.or_eq_none_iff] at isOpen
    obtain ⟨front, back, rfl⟩ := List.append_of_mem member
    have occurs : occursIn ['}'] (front ++ '}' :: back) = true := occursIn_iff.mpr ⟨front, back, by simp⟩
    rw [occursIn, isOpen.2] at occurs
    cases occurs
  · intro absent
    cases closed : closeHole body with
    | none => rfl
    | some found =>
      have whole := closeHole_eq_some closed
      exact absurd (by simp [whole]) absent

/-- The first brace closes a hole if no other brace stands behind it. -/
theorem closeHole_of_not_mem {source : List Char} (absent : '}' ∉ source) :
    closeHole (source ++ ['}']) = some (source, []) := by
  cases closed : closeHole (source ++ ['}']) with
  | none => exact absurd (by simp) (closeHole_eq_none_iff.mp closed)
  | some found =>
    obtain ⟨inside, behind⟩ := found
    rcases List.append_eq_append_iff.mp (closeHole_eq_some closed) with ⟨more, rfl, eq⟩ | ⟨more, rfl, eq⟩
    · have sizes := congrArg List.length eq
      simp only [List.length_append, List.length_cons, List.length_nil] at sizes
      have noMore : more = [] := List.length_eq_zero_iff.mp (by omega)
      have nothing : behind = [] := List.length_eq_zero_iff.mp (by omega)
      rw [noMore, nothing, List.append_nil]
    · cases more with
      | nil =>
        cases eq
        rw [List.append_nil]
      | cons c more =>
        cases eq
        exact absurd (by simp) absent

/-- A hole ends by itself where it ends with text behind it. -/
theorem closeHole_alone {source rest : List Char} (ends : closeHole (source ++ '}' :: rest) = some (source, rest)) :
    closeHole (source ++ ['}']) = some (source, []) := by
  rw [closeHole] at ends
  cases matched : matchingBrace none 0 (source ++ '}' :: rest) with
  | some found =>
    rw [matched, Option.some_or, Option.some.injEq] at ends
    rw [ends] at matched
    rw [closeHole, matchingBrace_congr matched [], Option.some_or]
  | none =>
    rw [matched, Option.none_or] at ends
    apply closeHole_of_not_mem
    intro member
    obtain ⟨front, back, rfl⟩ := List.append_of_mem member
    have earlier : front ++ '}' :: back ++ '}' :: rest = front ++ ['}'] ++ (back ++ '}' :: rest) := by simp
    have size := (breakAt_first ends earlier).1.length_le
    rw [List.length_append, List.length_cons] at size
    omega

/-- Scanning finds the first hole, and the literal text before it. -/
theorem scan_closed {before source rest : List Char} (closed : ¬ opening <:+: before)
    (ends : closeHole (source ++ '}' :: rest) = some (source, rest)) (substantial : IsSubstantial source) :
    scan [] (before ++ ((Segment.hole source).text ++ rest)) =
      literally before ++ .hole source :: scan [] rest := by
  have found : breakAt opening (before ++ ((Segment.hole source).text ++ rest)) =
      some (before, source ++ '}' :: rest) := by
    have broken := breakAt_append (by simp [opening]) (not_opening_append closed) (source ++ '}' :: rest)
    simpa [Segment.text] using broken
  have notBlank : source.all isBlank = false := by
    obtain ⟨c, member, notBlank⟩ := substantial
    exact List.all_eq_false.mpr ⟨c, member, by simp [notBlank]⟩
  rw [scan]
  split
  · rename_i missing
    rw [found] at missing
    cases missing
  · rename_i front body broken
    rw [found] at broken
    cases broken
    split
    · rename_i missing
      rw [ends] at missing
      cases missing
    · rename_i closedAt
      rw [ends] at closedAt
      cases closedAt
      simp [notBlank]

/-- A hole that ends at its own brace is found, with the literal text before it. -/
theorem scan_hole {before source : List Char} (closed : ¬ opening <:+: before) (closes : ClosesItself source)
    (substantial : IsSubstantial source) (rest : List Char) :
    scan [] (before ++ ((Segment.hole source).text ++ rest)) =
      literally before ++ .hole source :: scan [] rest := by
  refine scan_closed closed ?_ substantial
  rw [closeHole, (closesItself_iff rest).mp closes, Option.some_or]

/-- A text without an opening is one literal. -/
theorem scan_literal {text : List Char} (closed : ¬ opening <:+: text) :
    scan [] text = literally text := by
  rw [scan]
  split
  · rfl
  · rename_i found
    rw [breakAt_eq_none closed] at found
    cases found

/-- Without a dollar there is no opening. -/
theorem not_opening_of_not_dollar {text : List Char} (absent : '$' ∉ text) : ¬ opening <:+: text :=
  fun occurs => absent (occurs.subset (by simp [opening]))

/-- Every hole that a scan finds is more than blanks. -/
theorem substantial_of_mem_scan (passed text : List Char) :
    ∀ source, Segment.hole source ∈ scan passed text → IsSubstantial source := by
  have noHole : ∀ (text source : List Char), Segment.hole source ∉ literally text := by
    intro text source member
    unfold literally at member
    split at member <;> simp at member
  fun_induction scan with
  | case1 passed text => exact fun source member => absurd member (noHole _ source)
  | case2 passed text => exact fun source member => absurd member (noHole _ source)
  | case3 passed text before body found source rest closed blank ih => exact ih
  | case4 passed text before body found source rest closed notBlank ih =>
    intro other member
    rcases List.mem_append.mp member with front | behind
    · exact absurd front (noHole _ other)
    · rcases List.mem_cons.mp behind with same | later
      · cases same
        exact isSubstantial_of_not_blank (by simpa using notBlank)
      · exact ih other later

/-! ## Scanning the texts of segments -/

/-- A segment whose text is scanned to itself: literal text without a dollar, or a hole with a source that is
more than blanks and ends at its own brace. -/
def Segment.IsClosed : Segment → Prop
  | .literal text => '$' ∉ text
  | .hole source => ClosesItself source ∧ IsSubstantial source

/-- Segments behind literal text that was already passed, where neighbouring literal texts become one and
empty ones vanish. -/
def fuse (passed : List Char) : List Segment → List Segment
  | [] => literally passed
  | .literal text :: rest => fuse (passed ++ text) rest
  | .hole source :: rest => literally passed ++ .hole source :: fuse [] rest

/-- The texts of closed segments are scanned to these segments. -/
theorem scan_texts {passed : List Char} (absent : '$' ∉ passed) {segments : List Segment}
    (closed : ∀ segment ∈ segments, segment.IsClosed) :
    scan [] (passed ++ segments.flatMap Segment.text) = fuse passed segments := by
  induction segments generalizing passed with
  | nil =>
    rw [List.flatMap_nil, List.append_nil, fuse]
    exact scan_literal (not_opening_of_not_dollar absent)
  | cons segment rest ih =>
    have first := closed segment (by simp)
    have others := fun other member => closed other (List.mem_cons_of_mem segment member)
    rw [List.flatMap_cons]
    cases segment with
    | literal text =>
      have absentHere : '$' ∉ text := first
      rw [fuse, Segment.text, ← List.append_assoc]
      exact ih (by simp [absent, absentHere]) others
    | hole source =>
      have later : scan [] ([] ++ rest.flatMap Segment.text) = fuse [] rest := ih (by simp) others
      rw [fuse, scan_hole (not_opening_of_not_dollar absent) first.1 first.2, ← later, List.nil_append]

/-- A map that leaves literals as they are leaves text passed over as it is. -/
theorem flatMap_literally {f : Segment → List Char} (literal_eq : ∀ text, f (.literal text) = text)
    (text : List Char) : (literally text).flatMap f = text := by
  unfold literally
  split
  · rename_i empty
    simp [List.isEmpty_iff.mp empty]
  · simp [literal_eq]

/-- Fusing keeps what is made of the segments one by one, if literal texts stay as they are. -/
theorem flatMap_fuse {f : Segment → List Char} (literal_eq : ∀ text, f (.literal text) = text)
    (passed : List Char) (segments : List Segment) :
    (fuse passed segments).flatMap f = passed ++ segments.flatMap f := by
  induction segments generalizing passed with
  | nil => simp [fuse, flatMap_literally literal_eq]
  | cons segment rest ih =>
    cases segment with
    | literal text => simp [fuse, ih, literal_eq]
    | hole source => simp [fuse, ih, flatMap_literally literal_eq]

/-- The source of a hole. -/
def Segment.source? : Segment → Option (List Char)
  | .literal _ => none
  | .hole source => some source

/-- Joining literals leaves the holes as they were. -/
theorem filterMap_fuse (passed : List Char) (segments : List Segment) :
    (fuse passed segments).filterMap Segment.source? = segments.filterMap Segment.source? := by
  have literally_eq : ∀ text, (literally text).filterMap Segment.source? = [] := by
    intro text
    unfold literally
    split <;> simp [Segment.source?]
  induction segments generalizing passed with
  | nil => simp [fuse, literally_eq]
  | cons segment rest ih =>
    cases segment with
    | literal text => rw [fuse, ih, List.filterMap_cons_none rfl]
    | hole source => simp [fuse, ih, literally_eq, Segment.source?]

/-- Only of no text no literal is made. -/
theorem literally_eq_nil {text : List Char} : literally text = [] ↔ text = [] := by
  simp [literally]

/-- Fusing leaves nothing of empty literal texts, and only of these. -/
theorem fuse_eq_nil {passed : List Char} {segments : List Segment} :
    fuse passed segments = [] ↔ passed = [] ∧ ∀ segment ∈ segments, segment = .literal [] := by
  induction segments generalizing passed with
  | nil => simp [fuse, literally_eq_nil]
  | cons segment rest ih =>
    cases segment with
    | literal text => simp [fuse, ih, and_assoc]
    | hole source => simp [fuse]

/-- Fusing leaves a single hole if all the rest is empty literal text. -/
theorem fuse_eq_hole {passed source : List Char} {segments : List Segment} :
    fuse passed segments = [.hole source] ↔
      passed = [] ∧ ∃ front back, segments = front ++ .hole source :: back ∧
        ∀ segment ∈ front ++ back, segment = .literal [] := by
  induction segments generalizing passed with
  | nil =>
    have noHole : literally passed ≠ [.hole source] := by
      unfold literally
      split <;> simp
    simp [fuse, noHole]
  | cons segment rest ih =>
    cases segment with
    | literal text =>
      rw [fuse, ih, List.append_eq_nil_iff, and_assoc]
      refine and_congr_right fun _ => ⟨?_, ?_⟩
      · rintro ⟨rfl, front, back, rfl, empty⟩
        exact ⟨.literal [] :: front, back, rfl, by simpa using empty⟩
      · rintro ⟨front, back, whole, empty⟩
        cases front with
        | nil => simp at whole
        | cons first front =>
          simp only [List.cons_append, List.cons.injEq] at whole
          obtain ⟨rfl, rfl⟩ := whole
          simp only [List.cons_append, List.forall_mem_cons, Segment.literal.injEq] at empty
          exact ⟨empty.1, front, back, rfl, empty.2⟩
    | hole other =>
      rw [fuse]
      constructor
      · intro single
        have alone : literally passed = [] ∧ Segment.hole other :: fuse [] rest = [.hole source] := by
          rcases List.append_eq_singleton_iff.mp single with both | ⟨-, nothing⟩
          · exact both
          · cases nothing
        obtain ⟨empty, rest_empty⟩ := alone
        simp only [List.cons.injEq, Segment.hole.injEq] at rest_empty
        exact ⟨literally_eq_nil.mp empty, [], rest, by simp [rest_empty.1],
          by simpa using (fuse_eq_nil.mp rest_empty.2).2⟩
      · rintro ⟨rfl, front, back, whole, empty⟩
        cases front with
        | nil =>
          simp only [List.nil_append, List.cons.injEq, Segment.hole.injEq] at whole
          obtain ⟨rfl, rfl⟩ := whole
          rw [fuse_eq_nil.mpr ⟨rfl, by simpa using empty⟩]
          rfl
        | cons first front =>
          simp only [List.cons_append, List.cons.injEq] at whole
          have literal := empty first (by simp)
          rw [← whole.1] at literal
          cases literal

end Stepwise.Template
