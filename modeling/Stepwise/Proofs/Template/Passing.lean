import Stepwise.Template.Expression

/-!
# Texts that a scan passes over

Two scans go over the source of a hole character by character: one looks for the brace that closes the
hole, the other for the marks between its alternatives. Both keep to quotes. A scan passes over a text if
it finds what it would find behind the text, with the text carried over in front, whatever stands behind.
This module says what a scan passes over once it is known what it does at single characters, and what the
two scans do at these.
-/

set_option autoImplicit false

namespace Stepwise.Template

/-! ## Any scan -/

section

variable {Found : Type} {scan : Option Char → List Char → Option Found}
  {carry : Char → Found → Found}

/-- A scan goes over a text from one state of the quotes to another and carries the text over to what it
finds behind. -/
def Passes (scan : Option Char → List Char → Option Found) (carry : Char → Found → Found)
    (before : Option Char) (text : List Char) (after : Option Char) : Prop :=
  ∀ rest, scan before (text ++ rest) = (scan after rest).map fun found => text.foldr carry found

/-- Over no text at all a scan stays in its state. -/
theorem Passes.nil (quote : Option Char) : Passes scan carry quote [] quote := by
  intro rest
  simp

/-- A text is passed over part by part. -/
theorem Passes.append {before between after : Option Char} {front back : List Char}
    (overFront : Passes scan carry before front between) (overBack : Passes scan carry between back after) :
    Passes scan carry before (front ++ back) after := by
  intro rest
  rw [List.append_assoc, overFront, overBack, Option.map_map]
  simp [Function.comp_def]

/-- A text is passed over if each of its characters is. -/
theorem Passes.of_forall {quote : Option Char} {text : List Char}
    (each : ∀ c ∈ text, Passes scan carry quote [c] quote) : Passes scan carry quote text quote := by
  induction text with
  | nil => exact Passes.nil quote
  | cons c text ih =>
    have first : Passes scan carry quote [c] quote := each c (by simp)
    have others := ih fun d member => each d (by simp [member])
    exact first.append others

/-- A scan keeps to quotes: a quote opens, everything but itself stands inside, and it closes. -/
structure KeepsToQuotes (scan : Option Char → List Char → Option Found)
    (carry : Char → Found → Found) : Prop where
  opens : ∀ q, isQuote q = true → Passes scan carry none [q] (some q)
  inside : ∀ q c, isQuote q = true → c ≠ q → Passes scan carry (some q) [c] (some q)
  closes : ∀ q, isQuote q = true → Passes scan carry (some q) [q] none

/-- A scan that keeps to quotes passes over a quoted text, whatever stands in it. -/
theorem KeepsToQuotes.passes_quoted (keeps : KeepsToQuotes scan carry) {q : Char} (quote : isQuote q = true)
    {text : List Char} (inside : q ∉ text) : Passes scan carry none (q :: (text ++ [q])) none := by
  have body : Passes scan carry (some q) text (some q) := by
    apply Passes.of_forall
    intro c member
    exact keeps.inside q c quote fun same => inside (same ▸ member)
  exact (keeps.opens q quote).append (body.append (keeps.closes q quote))

end

/-! ## The scan for the closing brace -/

/-- The scan for the brace that closes a hole, outside of inner braces. -/
def braceScan (quote : Option Char) (body : List Char) : Option (List Char × List Char) :=
  matchingBrace quote 0 body

/-- A character carried over belongs to the source of the hole. -/
def intoSource (c : Char) (found : List Char × List Char) : List Char × List Char :=
  (c :: found.1, found.2)

/-- The scan for the closing brace keeps to quotes. -/
theorem braceScan_keepsToQuotes : KeepsToQuotes braceScan intoSource where
  opens q quote rest := by
    simp only [braceScan, List.cons_append, List.nil_append, matchingBrace, quote, if_true]
    rfl
  inside q c _ different rest := by
    simp only [braceScan, List.cons_append, List.nil_append, matchingBrace, if_neg different]
    rfl
  closes q _ rest := by
    simp only [braceScan, List.cons_append, List.nil_append, matchingBrace, if_true]
    rfl

/-- The scan passes over what is neither a quote nor a brace. -/
theorem braceScan_passes {c : Char} (noQuote : isQuote c = false) (notOpen : c ≠ '{') (notClose : c ≠ '}') :
    Passes braceScan intoSource none [c] none := by
  intro rest
  simp only [braceScan, List.cons_append, List.nil_append, matchingBrace, noQuote, if_neg notOpen,
    if_neg notClose]
  rfl

/-- The brace behind a source that is passed over closes the hole. -/
theorem braceScan_closes {source : List Char} (passed : Passes braceScan intoSource none source none)
    (rest : List Char) : matchingBrace none 0 (source ++ '}' :: rest) = some (source, rest) := by
  have found : braceScan none ('}' :: rest) = some ([], rest) := by
    simp [braceScan, matchingBrace, isQuote]
  have carried : ∀ text : List Char, text.foldr intoSource ([], rest) = (text, rest) := by
    intro text
    induction text with
    | nil => rfl
    | cons c text ih => simp [intoSource, ih]
  have whole := passed ('}' :: rest)
  rwa [found, Option.map_some, carried] at whole

/-! ## The scan for the marks between alternatives -/

/-- The scan for the marks between alternatives, outside of parentheses and brackets. -/
def cutScan (quote : Option Char) (source : List Char) : Option (List (List Char)) := cut? quote 0 source

/-- A character that does not begin a mark is looked at by itself. -/
theorem cut?_cons {quote : Option Char} {depth : Nat} {c : Char} {rest : List Char}
    (noMark : c ≠ '|' ∨ rest.head? ≠ some '|') :
    cut? quote depth (c :: rest) =
      match quote with
      | some q => (cut? (if c = q then none else some q) depth rest).map (extend c)
      | none =>
        if isQuote c then (cut? (some c) depth rest).map (extend c)
        else if c = '(' ∨ c = '[' then (cut? none (depth + 1) rest).map (extend c)
        else if c = ')' ∨ c = ']' then (cut? none (depth - 1) rest).map (extend c)
        else (cut? none depth rest).map (extend c) := by
  rw [cut?.eq_def]
  split
  · rename_i nothing
    cases nothing
  · rename_i bars
    cases bars
    simp at noMark
  · rename_i bare
    cases bare
    cases quote with
    | none => rfl
    | some q =>
      simp only
      split <;> rfl

/-- Inside quotes every character is looked at by itself. -/
theorem cut?_quoted {q : Char} (notBar : q ≠ '|') (depth : Nat) (c : Char) (rest : List Char) :
    cut? (some q) depth (c :: rest) =
      (cut? (if c = q then none else some q) depth rest).map (extend c) := by
  induction rest generalizing c with
  | nil => exact cut?_cons (Or.inr (by simp))
  | cons next rest ih =>
    by_cases bars : c = '|' ∧ next = '|'
    · -- the two characters of a mark are taken at once, so the second one needs the hypothesis too
      obtain ⟨rfl, rfl⟩ := bars
      have later := ih '|'
      rw [if_neg notBar.symm] at later
      rw [cut?, if_neg notBar.symm, later]
      simp [Option.map_map, Function.comp_def]
    · apply cut?_cons
      simpa using Decidable.not_and_iff_not_or_not.mp bars

/-- No quote is a bar. -/
theorem ne_bar_of_isQuote {q : Char} (quote : isQuote q = true) : q ≠ '|' := by
  rintro rfl
  simp [isQuote] at quote

/-- The scan for the bars between alternatives keeps to quotes. -/
theorem cutScan_keepsToQuotes : KeepsToQuotes cutScan extend where
  opens q quote rest := by
    rw [cutScan, List.singleton_append, cut?_cons (Or.inl (ne_bar_of_isQuote quote))]
    simp [quote, cutScan]
  inside q c quote different rest := by
    rw [cutScan, List.singleton_append, cut?_quoted (ne_bar_of_isQuote quote), if_neg different]
    simp [cutScan]
  closes q quote rest := by
    rw [cutScan, List.singleton_append, cut?_quoted (ne_bar_of_isQuote quote), if_pos rfl]
    simp [cutScan]

/-- The scan passes over what is neither a quote nor a parenthesis, a bracket or part of a mark. -/
theorem cutScan_passes {c : Char} (noQuote : isQuote c = false) (notBar : c ≠ '|')
    (noBracket : c ∉ ['(', '[', ')', ']']) : Passes cutScan extend none [c] none := by
  intro rest
  simp only [List.mem_cons, List.not_mem_nil, or_false, not_or] at noBracket
  rw [cutScan, List.singleton_append, cut?_cons (Or.inl notBar)]
  simp [noQuote, noBracket, cutScan]

end Stepwise.Template
