import Stepwise.Proofs.Template.Passing
import Stepwise.Proofs.Template.Staging

/-!
# Quotes in holes

Two scans go over the source of a hole and keep to quotes on their own: the scan for the closing brace, which
reads on as far as the text goes, and the cut at the marks between alternatives, which reads the source alone.
Both are compared with the same account of a text: which quote is open behind it, and which braces in it stand
outside of quotes. A brace closes a hole if no quote is open there and the braces before it are closed; so the
cut never finds a quote open where the scan found a brace. Where the scan finds none, the first brace of all
closes the hole; then a quote is open there, or a brace that stands outside of quotes.
-/

set_option autoImplicit false

namespace Stepwise.Template

open Stepwise.Text

/-! ## What is open behind a text -/

/-- The quote that is open behind a character. -/
def quoteBehind (quote : Option Char) (c : Char) : Option Char :=
  match quote with
  | some q => if c = q then none else some q
  | none => if isQuote c then some c else none

/-- The quote that is open behind a text. -/
def quoteAfter (quote : Option Char) (text : List Char) : Option Char := text.foldl quoteBehind quote

/-- What of a text stands outside of quotes. -/
def unquoted (quote : Option Char) : List Char → List Char
  | [] => []
  | c :: rest =>
    let behind := unquoted (quoteBehind quote c) rest
    if quote.isNone && !isQuote c then c :: behind else behind

/-- The braces of a text close each other, and as many as were open before it. -/
structure ClosesBraces (depth : Nat) (text : List Char) : Prop where
  total : depth + text.count '{' = text.count '}'
  within : ∀ front, front <+: text → front.count '}' ≤ depth + front.count '{'

/-- A brace outside of quotes is open behind a source. -/
def HasOpenBrace (source : List Char) : Prop :=
  ∃ front back, unquoted none source = front ++ '{' :: back ∧
    ∀ inner, inner <+: back → inner.count '}' ≤ inner.count '{'

/-- The empty text closes no brace. -/
theorem closesBraces_nil {depth : Nat} : ClosesBraces depth [] ↔ depth = 0 := by
  constructor
  · intro closes
    simpa using closes.total
  · rintro rfl
    refine ⟨rfl, fun front isPrefix => ?_⟩
    rw [List.prefix_nil.mp isPrefix]
    rfl

/-- A first character opens, closes or neither, and the others close what is open behind it. -/
theorem closesBraces_cons {depth next : Nat} {c : Char} {text : List Char}
    (steps : depth + [c].count '{' = next + [c].count '}') :
    ClosesBraces depth (c :: text) ↔ ClosesBraces next text := by
  have counts : ∀ (d : Char) (behind : List Char), (c :: behind).count d = [c].count d + behind.count d := by
    intro d behind
    rw [← List.count_append]
    rfl
  constructor
  · intro closes
    refine ⟨?_, fun front isPrefix => ?_⟩
    · have total := closes.total
      rw [counts '{' text, counts '}' text] at total
      omega
    · have within := closes.within (c :: front) (List.cons_prefix_cons.mpr ⟨rfl, isPrefix⟩)
      rw [counts '{' front, counts '}' front] at within
      omega
  · intro closes
    refine ⟨?_, fun front isPrefix => ?_⟩
    · have total := closes.total
      rw [counts '{' text, counts '}' text]
      omega
    · rcases List.prefix_cons_iff.mp isPrefix with rfl | ⟨inner, rfl, shorter⟩
      · exact Nat.zero_le _
      · have within := closes.within inner shorter
        rw [counts '{' inner, counts '}' inner]
        omega

/-- Where no brace is open, none is closed. -/
theorem not_closesBraces_close {text : List Char} : ¬ ClosesBraces 0 ('}' :: text) := by
  intro closes
  have within := closes.within ['}'] (List.cons_prefix_cons.mpr ⟨rfl, List.nil_prefix⟩)
  revert within
  decide

/-! ## The scan for the closing brace -/

/-- The scan finds the first brace behind which no quote is open and no brace. -/
theorem matchingBrace_eq_some_iff {quote : Option Char} {depth : Nat} {body source rest : List Char} :
    matchingBrace quote depth body = some (source, rest) ↔
      body = source ++ '}' :: rest ∧ quoteAfter quote source = none ∧
        ClosesBraces depth (unquoted quote source) := by
  induction body generalizing quote depth source with
  | nil => simp [matchingBrace]
  | cons c body ih =>
    -- every case of the scan but the end goes on behind the character, in some quote and at some depth
    have skips : ∀ (inner : Nat), ¬ (quote = none ∧ c = '}' ∧ depth = 0) →
        (∀ inside, ClosesBraces depth (unquoted quote (c :: inside)) ↔
          ClosesBraces inner (unquoted (quoteBehind quote c) inside)) →
        ((matchingBrace (quoteBehind quote c) inner body).map (fun found => (c :: found.1, found.2)) =
            some (source, rest) ↔
          c :: body = source ++ '}' :: rest ∧ quoteAfter quote source = none ∧
            ClosesBraces depth (unquoted quote source)) := by
      intro inner notEnd braces
      rw [Option.map_eq_some_iff]
      constructor
      · rintro ⟨⟨inside, behind⟩, found, eq⟩
        cases eq
        obtain ⟨rfl, closed, closes⟩ := ih.mp found
        exact ⟨rfl, closed, (braces inside).mpr closes⟩
      · rintro ⟨whole, closed, closes⟩
        cases source with
        | nil =>
          obtain ⟨rfl, rfl⟩ := List.cons.inj whole
          exact absurd ⟨closed, rfl, closesBraces_nil.mp closes⟩ notEnd
        | cons d inside =>
          obtain ⟨rfl, rfl⟩ := List.cons.inj whole
          exact ⟨(inside, rest), ih.mpr ⟨rfl, closed, (braces inside).mp closes⟩, rfl⟩
    rw [matchingBrace.eq_def]
    simp only
    cases quote with
    | some q =>
      have inQuotes : ∀ inside, ClosesBraces depth (unquoted (some q) (c :: inside)) ↔
          ClosesBraces depth (unquoted (quoteBehind (some q) c) inside) := fun _ => Iff.rfl
      have skipped := skips depth (by simp) inQuotes
      simp only [quoteBehind] at skipped ⊢
      split_ifs at skipped ⊢ <;> exact skipped
    | none =>
      simp only
      by_cases opens : isQuote c = true
      · have notClose : c ≠ '}' := by
          rintro rfl
          cases opens
        have skipped := skips depth (by simp [notClose]) (by simp [unquoted, opens])
        simp only [quoteBehind, opens, if_true] at skipped ⊢
        exact skipped
      · have bare : ∀ inside, unquoted none (c :: inside) = c :: unquoted none inside := by
          simp [unquoted, opens, quoteBehind]
        have stays : quoteBehind none c = none := by simp [quoteBehind, opens]
        simp only [stays, bare] at skips
        rw [if_neg opens]
        by_cases isOpen : c = '{'
        · subst isOpen
          rw [if_pos rfl]
          apply skips
          · simp
          · exact fun inside => closesBraces_cons (by simp)
        · rw [if_neg isOpen]
          by_cases isClose : c = '}'
          · subst isClose
            rw [if_pos rfl]
            by_cases outermost : depth = 0
            · subst outermost
              rw [if_pos rfl]
              constructor
              · rintro ⟨⟩
                exact ⟨rfl, rfl, closesBraces_nil.mpr rfl⟩
              · rintro ⟨whole, -, closes⟩
                cases source with
                | nil =>
                  cases whole
                  rfl
                | cons d inside =>
                  obtain ⟨rfl, -⟩ := List.cons.inj whole
                  rw [bare] at closes
                  exact absurd closes not_closesBraces_close
            · rw [if_neg outermost]
              apply skips
              · simp [outermost]
              · exact fun inside => closesBraces_cons (by simp; omega)
          · rw [if_neg isClose]
            apply skips
            · simp [isClose]
            · exact fun inside => closesBraces_cons (by simp [isOpen, isClose])

/-! ## The cut at the marks between alternatives -/

/-- A bar opens no quote and closes none. -/
theorem quoteBehind_bar {quote : Option Char} (quotes : ∀ q ∈ quote, isQuote q = true) :
    quoteBehind quote '|' = quote := by
  cases quote with
  | none => rfl
  | some q =>
    have notBar : '|' ≠ q := (ne_bar_of_isQuote (quotes q rfl)).symm
    exact if_neg notBar

/-- The cut fails exactly if a quote is open at the end. -/
theorem cut?_eq_none_iff {quote : Option Char} {depth : Nat} {source : List Char}
    (quotes : ∀ q ∈ quote, isQuote q = true) :
    cut? quote depth source = none ↔ (quoteAfter quote source).isSome = true := by
  fun_induction cut? quote depth source with
  | case1 quote depth isOpen => simp [quoteAfter, isOpen]
  | case2 quote depth closed => simpa [quoteAfter] using closed
  | case3 quote depth rest outside ih =>
    rw [Bool.and_eq_true, Option.isNone_iff_eq_none] at outside
    obtain ⟨rfl, -⟩ := outside
    exact Option.map_eq_none_iff.trans (ih quotes)
  | case4 quote depth rest inside ih =>
    have passed : quoteAfter quote ('|' :: '|' :: rest) = quoteAfter quote rest := by
      simp only [quoteAfter, List.foldl_cons, quoteBehind_bar quotes]
    rw [passed]
    exact Option.map_eq_none_iff.trans (ih quotes)
  | case5 depth rest q noMark skip ih =>
    have closes : quoteAfter (some q) (q :: rest) = quoteAfter none rest := by simp [quoteAfter, quoteBehind]
    rw [closes]
    exact Option.map_eq_none_iff.trans (ih none depth (by simp))
  | case6 depth c rest noMark skip q different ih =>
    have stays : quoteAfter (some q) (c :: rest) = quoteAfter (some q) rest := by
      simp [quoteAfter, quoteBehind, different]
    rw [stays]
    exact Option.map_eq_none_iff.trans (ih (some q) depth quotes)
  | case7 depth c rest noMark skip opens ih =>
    have begins : quoteAfter none (c :: rest) = quoteAfter (some c) rest := by
      simp [quoteAfter, quoteBehind, opens]
    rw [begins]
    exact Option.map_eq_none_iff.trans (ih (some c) depth (by simpa using opens))
  | case8 depth c rest noMark skip noQuote | case9 depth c rest noMark skip noQuote
  | case10 depth c rest noMark skip noQuote =>
    -- brackets count for the cut, but not for the quotes
    rename_i ih
    have stays : quoteAfter none (c :: rest) = quoteAfter none rest := by simp [quoteAfter, quoteBehind, noQuote]
    rw [stays]
    exact Option.map_eq_none_iff.trans (ih none _ quotes)

/-! ## How a hole is closed -/

/-- A hole with a quote that stays open: it is not cut, not read, and left as it is written in every scope. -/
structure IsUnterminated (source : List Char) : Prop where
  opened : (quoteAfter none source).isSome = true
  uncut : cut? none 0 source = none
  unread : Expression.parse source = .error (.unterminatedQuote (String.ofList (trim source)))
  kept : ∀ scope, (Segment.hole source).resolved scope = (Segment.hole source).text
  alone : ∀ scope, resolveText scope (String.ofList (Segment.hole source).text) =
    .text (String.ofList (Segment.hole source).text)

/-- How the hole with a source was closed in the text behind its opening. -/
inductive IsClosedIn (body source rest : List Char) : Prop
  /-- The scan has found its brace. -/
  | matched (found : matchingBrace none 0 body = some (source, rest)) (closed : quoteAfter none source = none)
    (cut : (cut? none 0 source).isSome = true) (braces : ¬ HasOpenBrace source)
  /-- The scan has found none, so the first brace closes the hole. -/
  | first (missing : matchingBrace none 0 body = none) (found : breakAt ['}'] body = some (source, rest))
    (reason : IsUnterminated source ∨ HasOpenBrace source)

/-- When all braces are closed, none is open. -/
theorem not_hasOpenBrace_of_closesBraces {source : List Char} (closes : ClosesBraces 0 (unquoted none source)) :
    ¬ HasOpenBrace source := by
  rintro ⟨front, back, whole, isOpen⟩
  rw [whole] at closes
  have total := closes.total
  have before := closes.within front (List.prefix_append _ _)
  have behind := isOpen back List.prefix_rfl
  rw [List.count_append, List.count_append, List.count_cons_self, List.count_cons_of_ne (by decide)] at total
  omega

/-- What stands outside of quotes stands in the text. -/
theorem mem_of_mem_unquoted {quote : Option Char} {c : Char} {source : List Char}
    (member : c ∈ unquoted quote source) : c ∈ source := by
  induction source generalizing quote with
  | nil => exact member
  | cons d source ih =>
    unfold unquoted at member
    simp only at member
    split at member
    · rcases List.mem_cons.mp member with rfl | later
      · exact List.mem_cons_self
      · exact List.mem_cons_of_mem d (ih later)
    · exact List.mem_cons_of_mem d (ih member)

/-- Where the first brace does not close a hole, a quote is open there or a brace. -/
theorem open_of_missing {source rest : List Char} (noBrace : '}' ∉ source)
    (missing : matchingBrace none 0 (source ++ '}' :: rest) = none) :
    (quoteAfter none source).isSome = true ∨ HasOpenBrace source := by
  by_contra neither
  rw [not_or, Option.not_isSome_iff_eq_none] at neither
  obtain ⟨closed, noneOpen⟩ := neither
  have noClose : '}' ∉ unquoted none source := fun member => noBrace (mem_of_mem_unquoted member)
  have noOpen : '{' ∉ unquoted none source := by
    intro member
    obtain ⟨front, back, whole⟩ := List.append_of_mem member
    refine noneOpen ⟨front, back, whole, fun inner isPrefix => ?_⟩
    have absent : '}' ∉ inner := fun among => noClose (by simp [whole, isPrefix.subset among])
    rw [List.count_eq_zero_of_not_mem absent]
    exact Nat.zero_le _
  have closes : ClosesBraces 0 (unquoted none source) := by
    refine ⟨?_, fun front isPrefix => ?_⟩
    · rw [List.count_eq_zero_of_not_mem noClose, List.count_eq_zero_of_not_mem noOpen]
    · rw [List.count_eq_zero_of_not_mem fun among => noClose (isPrefix.subset among)]
      exact Nat.zero_le _
  rw [matchingBrace_eq_some_iff.mpr ⟨rfl, closed, closes⟩] at missing
  cases missing

/-- A source alone in its text that leaves a quote open is an unterminated one. -/
theorem isUnterminated_of_open {source : List Char} (opened : (quoteAfter none source).isSome = true)
    (single : parse (Segment.hole source).text = [.hole source]) : IsUnterminated source := by
  have uncut : cut? none 0 source = none := (cut?_eq_none_iff (by simp)).mpr opened
  have unread : Expression.parse source = .error (.unterminatedQuote (String.ofList (trim source))) := by
    rw [Expression.parse, uncut]
  have kept : ∀ scope, fill scope source = .kept := by
    intro scope
    rw [fill, unread]
  refine ⟨opened, uncut, unread, fun scope => ?_, fun scope => ?_⟩
  · rw [Segment.resolved, kept]
  · rw [← String.toList_ofList (l := (Segment.hole source).text)] at single
    rw [resolveText_of_hole single, kept]
    rfl

/-- A source that the scanner cuts out is closed as its quotes and braces say. -/
theorem isClosedIn_of_closeHole {body source rest : List Char} (ends : closeHole body = some (source, rest))
    (single : parse (Segment.hole source).text = [.hole source]) : IsClosedIn body source rest := by
  have whole := closeHole_eq_some ends
  unfold closeHole at ends
  cases found : matchingBrace none 0 body with
  | some pair =>
    rw [found, Option.some_or, Option.some.injEq] at ends
    subst ends
    obtain ⟨-, closed, closes⟩ := matchingBrace_eq_some_iff.mp found
    have cut : (cut? none 0 source).isSome = true := by
      rw [Option.isSome_iff_ne_none, ne_eq, cut?_eq_none_iff (by simp), closed]
      simp
    exact .matched found closed cut (not_hasOpenBrace_of_closesBraces closes)
  | none =>
    rw [found, Option.none_or] at ends
    refine .first found ends ?_
    rw [whole] at found
    rcases open_of_missing (not_mem_of_breakAt ends) found with opened | isOpen
    · exact .inl (isUnterminated_of_open opened single)
    · exact .inr isOpen

/-! ## The holes of a template -/

/-- A hole of segments that begin with literal text is one of the others. -/
theorem exists_of_literally_append {text source : List Char} {segments front back : List Segment}
    (whole : literally text ++ segments = front ++ .hole source :: back) :
    ∃ others, segments = others ++ .hole source :: back := by
  rcases literally_cases text with ⟨-, eq⟩ | ⟨-, eq⟩
  · rw [eq, List.nil_append] at whole
    exact ⟨front, whole⟩
  · rw [eq, List.singleton_append] at whole
    cases front with
    | nil => cases whole
    | cons first front => exact ⟨front, (List.cons.inj whole).2⟩

/-- A hole was closed in what stands behind its opening. -/
theorem closeHole_of_scan {passed text : List Char} :
    ∀ front source back, scan passed text = front ++ .hole source :: back →
      closeHole (source ++ '}' :: back.flatMap Segment.text) = some (source, back.flatMap Segment.text) := by
  have noHole : ∀ (text source : List Char) (front back : List Segment),
      literally text ≠ front ++ .hole source :: back := by
    intro text source front back whole
    exact hole_not_mem_literally source text (by simp [whole])
  fun_induction scan with
  | case1 passed text => exact fun front source back whole => absurd whole (noHole _ source front back)
  | case2 passed text => exact fun front source back whole => absurd whole (noHole _ source front back)
  | case3 passed text before body found inside rest closed blank ih => exact ih
  | case4 passed text before body found inside rest closed notBlank ih =>
    intro front source back whole
    obtain ⟨others, eq⟩ := exists_of_literally_append whole
    cases others with
    | nil =>
      cases eq
      rwa [flatMap_scan, List.nil_append, ← closeHole_eq_some closed]
    | cons hole others => exact ih others source back (List.cons.inj eq).2

/-- Both scans keep to the same quotes in every hole of a template. If the scan has found its brace, no quote is
open there, so the source is cut; and if the first brace closes the hole, a quote is open there, so the hole is
neither cut nor read and stays as it is written, or an outer brace is. -/
theorem parse_keepsToQuotes {text source : List Char} {front back : List Segment}
    (found : parse text = front ++ .hole source :: back) :
    ∃ body, text = front.flatMap Segment.text ++ opening ++ body ∧
      IsClosedIn body source (back.flatMap Segment.text) := by
  have faithful := parse_isFaithful text
  have single := faithful.alone source (by simp [found])
  refine ⟨source ++ '}' :: back.flatMap Segment.text, ?_, ?_⟩
  · have texts := faithful.texts
    rw [found] at texts
    rw [← texts]
    simp [Segment.text]
  · exact isClosedIn_of_closeHole (closeHole_of_scan front source back found) single

/-- Three holes, of which the scan finds the brace of the first one; the second has an open brace, and the third
an open quote. -/
def quotingTrial : List Char := "$\x7bvars.b || '\x7d'\x7d$\x7bvars.a\x7b0\x7d$\x7b'open\x7d".toList

/-- The holes that the scanner finds in it. -/
def quotingHoles : List Segment :=
  [.hole "vars.b || '\x7d'".toList, .hole "vars.a\x7b0".toList, .hole "'open".toList]

/-- Each is closed as its quotes and braces say; the third one cannot be read, and stays in every scope. -/
theorem parse_keepsToQuotes_trial :
    parse quotingTrial = quotingHoles ∧
      (∀ front source back, quotingHoles = front ++ .hole source :: back →
        ∃ body, quotingTrial = front.flatMap Segment.text ++ opening ++ body ∧
          IsClosedIn body source (back.flatMap Segment.text)) ∧
      IsUnterminated "'open".toList := by
  have parsed : parse quotingTrial = quotingHoles := by decide +kernel
  have closed : ∀ front source back, quotingHoles = front ++ .hole source :: back →
      ∃ body, quotingTrial = front.flatMap Segment.text ++ opening ++ body ∧
        IsClosedIn body source (back.flatMap Segment.text) :=
    fun _ _ _ whole => parse_keepsToQuotes (parsed.trans whole)
  obtain ⟨body, -, last⟩ := closed (quotingHoles.take 2) "'open".toList [] rfl
  refine ⟨parsed, closed, ?_⟩
  cases last with
  | matched _ noQuote => exact absurd noQuote (by decide)
  | first _ _ reason =>
    rcases reason with unterminated | ⟨front, back, whole, -⟩
    · exact unterminated
    · have nothing : unquoted none "'open".toList = [] := rfl
      rw [nothing] at whole
      simp at whole

end Stepwise.Template
