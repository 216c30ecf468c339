import Mathlib.Data.List.TakeWhile
import Stepwise.Text.Blank
import Stepwise.Text.Split

/-!
# Laws of trimming and cutting

Trimming forgets the blanks around a text and nothing else: a text keeps its end while blanks are cut off
its start, and blanks added at either side make no difference. Cutting at a separator undoes joining with
it, as long as no piece together with the front of the separator already spells the separator.
-/

set_option autoImplicit false

namespace Stepwise.Text

/-! ## Trimming -/

/-- A text that is more than blanks. -/
def IsSubstantial (text : List Char) : Prop := ∃ c ∈ text, isBlank c = false

/-- Blanks in front of a text are cut off. -/
theorem trimStart_append_of_blank {blanks : List Char} (blank : ∀ c ∈ blanks, isBlank c = true)
    (text : List Char) : trimStart (blanks ++ text) = trimStart text :=
  List.dropWhile_append_of_pos blank

/-- Blanks behind a text are cut off. -/
theorem trimEnd_append_of_blank {blanks : List Char} (blank : ∀ c ∈ blanks, isBlank c = true)
    (text : List Char) : trimEnd (text ++ blanks) = trimEnd text := by
  unfold trimEnd
  rw [List.reverse_append, List.dropWhile_append_of_pos]
  intro c member
  exact blank c (List.mem_reverse.mp member)

/-- What follows a text that is more than blanks stays when its start is trimmed. -/
theorem trimStart_append {text : List Char} (substantial : IsSubstantial text) (rest : List Char) :
    trimStart (text ++ rest) = trimStart text ++ rest := by
  unfold trimStart
  obtain ⟨c, member, notBlank⟩ := substantial
  rw [List.dropWhile_append, if_neg]
  intro empty
  have allBlank := List.dropWhile_eq_nil_iff.mp (List.isEmpty_iff.mp empty)
  simp [allBlank c member] at notBlank

/-- What stands before a text that is more than blanks stays when its end is trimmed. -/
theorem trimEnd_append {text : List Char} (substantial : IsSubstantial text) (front : List Char) :
    trimEnd (front ++ text) = front ++ trimEnd text := by
  have reversed : IsSubstantial text.reverse := by
    obtain ⟨c, member, notBlank⟩ := substantial
    exact ⟨c, List.mem_reverse.mpr member, notBlank⟩
  have kept := trimStart_append reversed front.reverse
  unfold trimStart at kept
  simp [trimEnd, kept]

/-- A text of blanks is trimmed to nothing. -/
theorem trim_eq_nil {text : List Char} (blank : ∀ c ∈ text, isBlank c = true) : trim text = [] := by
  have nothing : trimStart text = [] := List.dropWhile_eq_nil_iff.mpr blank
  rw [trim, nothing]
  rfl

/-- A text that is not all blank is more than blanks. -/
theorem isSubstantial_of_not_blank {text : List Char} (notBlank : ¬ ∀ c ∈ text, isBlank c = true) :
    IsSubstantial text := by
  simpa [IsSubstantial] using notBlank

/-- Trimming the start leaves something of a text that is more than blanks. -/
theorem IsSubstantial.trimStart_ne_nil {text : List Char} (substantial : IsSubstantial text) :
    trimStart text ≠ [] := by
  obtain ⟨c, member, notBlank⟩ := substantial
  intro empty
  have allBlank := List.dropWhile_eq_nil_iff.mp empty
  simp [allBlank c member] at notBlank

/-- Trimming the end leaves something of a text that is more than blanks. -/
theorem IsSubstantial.trimEnd_ne_nil {text : List Char} (substantial : IsSubstantial text) :
    trimEnd text ≠ [] := by
  obtain ⟨c, member, notBlank⟩ := substantial
  intro empty
  have allBlank := List.dropWhile_eq_nil_iff.mp (List.reverse_eq_nil_iff.mp empty)
  simp [allBlank c (List.mem_reverse.mpr member)] at notBlank

/-- It stays so with more behind it. -/
theorem IsSubstantial.append_right {text : List Char} (substantial : IsSubstantial text)
    (rest : List Char) : IsSubstantial (text ++ rest) := by
  obtain ⟨c, member, notBlank⟩ := substantial
  exact ⟨c, List.mem_append_left _ member, notBlank⟩

/-- It stays so with more before it. -/
theorem IsSubstantial.append_left {text : List Char} (substantial : IsSubstantial text)
    (front : List Char) : IsSubstantial (front ++ text) := by
  obtain ⟨c, member, notBlank⟩ := substantial
  exact ⟨c, List.mem_append_right _ member, notBlank⟩

/-- Trimming the start cuts off blanks only. -/
theorem exists_trimStart (text : List Char) :
    ∃ blanks, (∀ c ∈ blanks, isBlank c = true) ∧ text = blanks ++ trimStart text :=
  ⟨text.takeWhile isBlank, fun _ member => List.mem_takeWhile_imp member,
    List.takeWhile_append_dropWhile.symm⟩

/-- Trimming the end cuts off blanks only. -/
theorem exists_trimEnd (text : List Char) :
    ∃ blanks, (∀ c ∈ blanks, isBlank c = true) ∧ text = trimEnd text ++ blanks := by
  obtain ⟨blanks, blank, reversed⟩ := exists_trimStart text.reverse
  refine ⟨blanks.reverse, fun c member => blank c (List.mem_reverse.mp member), ?_⟩
  have whole := congrArg List.reverse reversed
  simpa [trimEnd, trimStart] using whole

/-- Trimming at the front leaves an end of the text. -/
theorem trimStart_within (text : List Char) : trimStart text <:+: text :=
  (List.dropWhile_suffix _).isInfix

/-- Trimming at the end leaves a beginning of the text. -/
theorem trimEnd_within (text : List Char) : trimEnd text <:+: text := by
  obtain ⟨blanks, -, whole⟩ := exists_trimEnd text
  exact ⟨[], blanks, whole.symm⟩

/-- Blanks around a text make no difference to what it is trimmed to. -/
theorem trim_pad {before after : List Char} (blankBefore : ∀ c ∈ before, isBlank c = true)
    (blankAfter : ∀ c ∈ after, isBlank c = true) (text : List Char) :
    trim (before ++ text ++ after) = trim text := by
  by_cases blank : ∀ c ∈ text, isBlank c = true
  · rw [trim_eq_nil blank, trim_eq_nil]
    intro c member
    rcases List.mem_append.mp member with front | behind
    · exact (List.mem_append.mp front).elim (blankBefore c) (blank c)
    · exact blankAfter c behind
  · unfold trim
    rw [List.append_assoc, trimStart_append_of_blank blankBefore,
      trimStart_append (isSubstantial_of_not_blank blank), trimEnd_append_of_blank blankAfter]

/-- Trimming the start first changes nothing. -/
theorem trim_trimStart (text : List Char) : trim (trimStart text) = trim text := by
  obtain ⟨blanks, blank, whole⟩ := exists_trimStart text
  have padded : trim (blanks ++ trimStart text ++ []) = trim (trimStart text) :=
    trim_pad blank (by simp) (trimStart text)
  rw [List.append_nil, ← whole] at padded
  exact padded.symm

/-- Trimming the end first changes nothing. -/
theorem trim_trimEnd (text : List Char) : trim (trimEnd text) = trim text := by
  obtain ⟨blanks, blank, whole⟩ := exists_trimEnd text
  have padded : trim ([] ++ trimEnd text ++ blanks) = trim (trimEnd text) :=
    trim_pad (by simp) blank (trimEnd text)
  rw [List.nil_append, ← whole] at padded
  exact padded.symm

/-- A text with a blank at neither end stays as it is. -/
theorem trim_eq_self {text : List Char} (begins : ∀ c ∈ text.head?, isBlank c = false)
    (ends : ∀ c ∈ text.getLast?, isBlank c = false) : trim text = text := by
  have start : trimStart text = text := by
    cases text with
    | nil => rfl
    | cons c rest => simp [trimStart, begins c (by simp)]
  rw [trim, start]
  rcases List.eq_nil_or_concat text with rfl | ⟨front, c, rfl⟩
  · rfl
  · simp [trimEnd, ends c (by simp)]

/-! ## Finding -/

/-- What follows a start is found behind it. -/
theorem after?_append (start rest : List Char) : after? start (start ++ rest) = some rest := by
  induction start with
  | nil => rfl
  | cons c start ih => simpa [after?] using ih

/-- A text begins with a start exactly if something is found behind it. -/
theorem after?_isSome_iff {start text : List Char} :
    (after? start text).isSome = true ↔ start <+: text := by
  constructor
  · intro found
    obtain ⟨rest, found⟩ := Option.isSome_iff_exists.mp found
    exact ⟨rest, (after?_eq_some found).symm⟩
  · rintro ⟨rest, rfl⟩
    rw [after?_append]
    rfl

/-- What is found before an ending stands before it. -/
theorem before?_eq_some {ending text front : List Char} (found : before? ending text = some front) :
    text = front ++ ending := by
  obtain ⟨reversed, behind, rfl⟩ := Option.map_eq_some_iff.mp found
  have whole := congrArg List.reverse (after?_eq_some behind)
  simpa using whole

/-- Cutting an ending off leaves what stands before it. -/
theorem before?_append (front ending : List Char) : before? ending (front ++ ending) = some front := by
  simp [before?, after?_append]

/-- A text occurs in another exactly if it is cut out by a front and a rest. -/
theorem occursIn_iff {needle text : List Char} : occursIn needle text = true ↔ needle <:+: text := by
  constructor
  · intro occurs
    obtain ⟨⟨before, rest⟩, found⟩ := Option.isSome_iff_exists.mp occurs
    exact ⟨before, rest, (breakAt_eq_some found).symm⟩
  · intro occurs
    induction text with
    | nil =>
      have empty : needle = [] := by simpa using occurs
      simp [occursIn, breakAt, empty]
    | cons c text ih =>
      unfold occursIn breakAt
      cases found : after? needle (c :: text) with
      | some => rfl
      | none =>
        rcases List.infix_cons_iff.mp occurs with here | later
        · have some := after?_isSome_iff.mpr here
          simp [found] at some
        · simpa [occursIn] using ih later

/-- Nothing is found of a separator that does not occur. -/
theorem breakAt_eq_none {separator text : List Char} (absent : ¬ separator <:+: text) :
    breakAt separator text = none := by
  rw [← occursIn_iff] at absent
  simpa [occursIn] using absent

/-- The first occurrence of a separator is the one behind a text, if that text together with the front of
the separator does not spell the separator before. -/
theorem breakAt_append {separator before : List Char} (nonempty : separator ≠ [])
    (apart : ¬ separator <:+: before ++ separator.dropLast) (rest : List Char) :
    breakAt separator (before ++ separator ++ rest) = some (before, rest) := by
  induction before with
  | nil =>
    obtain ⟨s, separator, rfl⟩ := List.exists_cons_of_ne_nil nonempty
    have found := after?_append (s :: separator) rest
    simp only [List.cons_append] at found
    simp [breakAt, found]
  | cons c before ih =>
    have later : ¬ separator <:+: before ++ separator.dropLast :=
      fun occurs => apart (occurs.trans (List.suffix_cons c _).isInfix)
    -- a separator that begins here would lie within the text and the front of the real one
    have notHere : after? separator (c :: (before ++ separator ++ rest)) = none := by
      by_contra found
      have isPrefix : separator <+: c :: (before ++ separator ++ rest) :=
        after?_isSome_iff.mp (Option.isSome_iff_ne_none.mpr found)
      have within : c :: before ++ separator.dropLast <+: c :: (before ++ separator ++ rest) := by
        refine ⟨[separator.getLast nonempty] ++ rest, ?_⟩
        rw [List.append_assoc, ← List.append_assoc separator.dropLast,
          List.dropLast_concat_getLast nonempty]
        simp
      have short : separator.length ≤ (c :: before ++ separator.dropLast).length := by
        simp only [List.length_append, List.length_cons, List.length_dropLast]
        omega
      exact apart (List.prefix_of_prefix_length_le isPrefix within short).isInfix
    have found := ih later
    simp only [List.cons_append, breakAt, notHere, found, Option.map_some]

/-- No occurrence of a separator begins before the first one, and what stands behind any of them stands behind
the first. -/
theorem breakAt_first {separator text before rest front back : List Char}
    (found : breakAt separator text = some (before, rest)) (occurs : text = front ++ separator ++ back) :
    before <+: front ∧ back <:+ rest := by
  have earlier : before <+: front := by
    induction text generalizing before front with
    | nil =>
      have nothing : front ++ separator = [] := (List.append_eq_nil_iff.mp occurs.symm).1
      have empty : separator = [] := (List.append_eq_nil_iff.mp nothing).2
      rw [breakAt, if_pos empty] at found
      cases found
      exact List.nil_prefix
    | cons c text ih =>
      rw [breakAt] at found
      split at found
      · cases found
        exact List.nil_prefix
      · rename_i notHere
        obtain ⟨⟨inside, behind⟩, later, eq⟩ := Option.map_eq_some_iff.mp found
        cases eq
        cases front with
        | nil =>
          rw [occurs, List.nil_append, after?_append] at notHere
          cases notHere
        | cons d front =>
          simp only [List.cons_append, List.cons.injEq] at occurs
          obtain ⟨rfl, occurs⟩ := occurs
          exact List.cons_prefix_cons.mpr ⟨rfl, ih later occurs⟩
  have size := earlier.length_le
  have whole := congrArg List.length (occurs.symm.trans (breakAt_eq_some found))
  have behind : back <:+ text := ⟨front ++ separator, occurs.symm⟩
  have behindFirst : rest <:+ text := ⟨before ++ separator, (breakAt_eq_some found).symm⟩
  refine ⟨earlier, List.suffix_of_suffix_length_le behind behindFirst ?_⟩
  simp only [List.length_append] at whole
  omega

/-- A separator does not occur before its first occurrence. -/
theorem not_infix_of_breakAt {separator text before rest : List Char} (nonempty : separator ≠ [])
    (found : breakAt separator text = some (before, rest)) : ¬ separator <:+: before := by
  rintro ⟨front, back, rfl⟩
  have occurs : text = front ++ separator ++ (back ++ separator ++ rest) := by
    rw [breakAt_eq_some found]
    simp
  have size := (breakAt_first found occurs).1.length_le
  have positive : 0 < separator.length := List.length_pos_iff.mpr nonempty
  simp only [List.length_append] at size
  omega

/-- No character stands before its first occurrence. -/
theorem not_mem_of_breakAt {c : Char} {text before rest : List Char}
    (found : breakAt [c] text = some (before, rest)) : c ∉ before := by
  intro member
  obtain ⟨front, back, rfl⟩ := List.append_of_mem member
  exact not_infix_of_breakAt (List.cons_ne_nil c []) found ⟨front, back, by simp⟩

/-! ## Cutting -/

/-- Joining puts the separator behind the first of several pieces. -/
theorem join_cons (separator piece : List Char) {pieces : List (List Char)} (several : pieces ≠ []) :
    join separator (piece :: pieces) = piece ++ separator ++ join separator pieces := by
  obtain ⟨next, rest, rfl⟩ := List.exists_cons_of_ne_nil several
  rfl

/-- The first and the last of the joined pieces stand at the ends of the text. -/
theorem join_ends (separator first last : List Char) (middle : List (List Char)) :
    join separator (first :: (middle ++ [last])) =
      first ++ (separator ++ middle.flatMap (· ++ separator)) ++ last := by
  induction middle generalizing first with
  | nil => simp [join]
  | cons piece middle ih =>
    rw [join_cons separator first (by simp), List.cons_append, ih piece]
    simp

/-- Trimming joined pieces trims the first one and the last one. -/
theorem trim_join {separator first last : List Char} (firstSubstantial : IsSubstantial first)
    (lastSubstantial : IsSubstantial last) (middle : List (List Char)) :
    trim (join separator (first :: (middle ++ [last]))) =
      join separator (trimStart first :: (middle ++ [trimEnd last])) := by
  rw [join_ends, join_ends, trim, List.append_assoc, trimStart_append firstSubstantial,
    ← List.append_assoc, trimEnd_append lastSubstantial]

/-- The separator occurs between joined pieces. -/
theorem occursIn_join (separator first last : List Char) (middle : List (List Char)) :
    occursIn separator (join separator (first :: (middle ++ [last]))) = true := by
  rw [occursIn_iff, join_ends]
  exact ⟨first, middle.flatMap (· ++ separator) ++ last, by simp⟩

/-- Cutting undoes joining. -/
theorem split_join {separator : List Char} (nonempty : separator ≠ []) {pieces : List (List Char)}
    {last : List Char} (apart : ∀ piece ∈ pieces, ¬ separator <:+: piece ++ separator.dropLast)
    (absent : ¬ separator <:+: last) :
    split separator (join separator (pieces ++ [last])) = pieces ++ [last] := by
  induction pieces with
  | nil =>
    rw [List.nil_append, join, split, if_neg nonempty]
    split
    · rfl
    · rename_i found
      rw [breakAt_eq_none absent] at found
      cases found
  | cons piece rest ih =>
    have broken := breakAt_append nonempty (apart piece (by simp)) (join separator (rest ++ [last]))
    rw [List.cons_append, join_cons separator piece (by simp), split, if_neg nonempty]
    split
    · rename_i found
      rw [broken] at found
      cases found
    · rename_i found
      rw [broken] at found
      cases found
      rw [ih fun other member => apart other (by simp [member])]

/-- The pieces that a text is cut into are parts of it without the separator. -/
theorem within_and_not_infix_of_mem_split {separator text piece : List Char} (nonempty : separator ≠ [])
    (member : piece ∈ split separator text) : piece <:+: text ∧ ¬ separator <:+: piece := by
  fun_induction split separator text with
  | case1 text empty => exact absurd empty nonempty
  | case2 text _ missing =>
    rw [List.mem_singleton.mp member]
    refine ⟨List.infix_rfl, fun occurs => ?_⟩
    rw [← occursIn_iff, occursIn, missing] at occurs
    cases occurs
  | case3 text _ before rest found ih =>
    have whole := breakAt_eq_some found
    rcases List.mem_cons.mp member with rfl | later
    · refine ⟨⟨[], separator ++ rest, ?_⟩, not_infix_of_breakAt nonempty found⟩
      simp [whole]
    · obtain ⟨within, absent⟩ := ih later
      have behind : rest <:+: text := ⟨before ++ separator, [], by simp [whole]⟩
      exact ⟨within.trans behind, absent⟩

/-- A text that contains a separator is cut into several pieces. -/
theorem two_le_length_split {separator text : List Char} (nonempty : separator ≠ [])
    (occurs : occursIn separator text = true) : 2 ≤ (split separator text).length := by
  have some_piece : ∀ text : List Char, 0 < (split separator text).length := by
    intro text
    unfold split
    split
    · simp
    · split <;> simp
  unfold occursIn at occurs
  rw [split, if_neg nonempty]
  split
  · rename_i missing
    rw [missing] at occurs
    cases occurs
  · rename_i before rest found
    have := some_piece rest
    simp only [List.length_cons]
    omega

end Stepwise.Text
