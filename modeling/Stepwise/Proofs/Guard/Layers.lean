import Stepwise.Proofs.Guard.Composition

/-!
# The layers of a guard

Without parentheses a guard has three layers at most: a conjunction at the root, disjunctions in it, and single
tests in these, perhaps negated. Trimming and taking braces off is done again at every layer, but it only ever
leaves a part of the text, and a text that was cut at a mark has the mark in none of its pieces. So no layer
brings back a mark that a layer above it was cut at. What a layer reads is shorter than what the layer above it
read, so the depth of the calls is bounded by the length of the text.
-/

set_option autoImplicit false

namespace Stepwise.Guard

open Stepwise.Text

/-! ## Layers -/

/-- A single test, under any number of negations. -/
inductive IsTest : Guard → Prop
  | truthy (path : Path) : IsTest (.truthy path)
  | length (path : Path) (op : Comparison) (bound : Int) : IsTest (.length path op bound)
  | unresolvedLength (text : String) (op : Comparison) (bound : Int) : IsTest (.unresolvedLength text op bound)
  | unknown (text : String) : IsTest (.unknown text)
  | negated {inner : Guard} (test : IsTest inner) : IsTest (.negated inner)

/-- A test, or a disjunction of several. -/
inductive IsClause : Guard → Prop
  | single {test : Guard} (isTest : IsTest test) : IsClause test
  | any {parts : List Guard} (several : 2 ≤ parts.length) (tests : ∀ part ∈ parts, IsTest part) :
    IsClause (.any parts)

/-- A clause, or a conjunction of several. -/
inductive IsLayered : Guard → Prop
  | single {clause : Guard} (isClause : IsClause clause) : IsLayered clause
  | all {parts : List Guard} (several : 2 ≤ parts.length) (clauses : ∀ part ∈ parts, IsClause part) :
    IsLayered (.all parts)

/-! ## Single tests -/

/-- What is read as a comparison of a length is a single test. -/
theorem isTest_of_parseLength {text : List Char} {guard : Guard} (read : parseLength text = .ok (some guard)) :
    IsTest guard := by
  unfold parseLength at read
  split at read
  · cases read
  · simp only at read
    split_ifs at read
    · cases read
    · split at read
      · cases read
      · split at read
        · cases read
        · split at read <;> cases read <;> constructor

/-- What is read as a test is a single test. -/
theorem isTest_of_parseTest {text : List Char} {guard : Guard} (read : parseTest text = .ok guard) :
    IsTest guard := by
  unfold parseTest at read
  split at read
  · cases read
  · rename_i measured
    cases read
    exact isTest_of_parseLength measured
  · split at read <;> cases read <;> constructor

/-! ## What a layer reads -/

/-- Trimming and taking braces off leaves a part of a text. -/
theorem unwrap_trim_within (text : List Char) : unwrap (trim text) <:+: text := by
  have trimmed : ∀ text, trim text <:+: text := fun text => (trimEnd_within _).trans (trimStart_within text)
  refine List.IsInfix.trans ?_ (trimmed text)
  generalize trim text = body
  unfold unwrap
  split
  · rename_i inside found
    obtain ⟨opened, front, back⟩ := Option.bind_eq_some_iff.mp found
    have whole : body = Template.opening ++ inside ++ ['}'] := by
      rw [after?_eq_some front, before?_eq_some back, List.append_assoc]
    exact (trimmed inside).trans ⟨Template.opening, ['}'], whole.symm⟩
  · exact List.infix_rfl

/-- The layer that a guard is of is settled by the marks that do not occur in the text it is read from. -/
structure IsReadFrom (text : List Char) (guard : Guard) : Prop where
  layered : IsLayered guard
  clause : ¬ andMark <:+: text → IsClause guard
  test : ¬ andMark <:+: text → ¬ orMark <:+: text → IsTest guard

/-- A single test is read from any text in no layer at all. -/
theorem IsReadFrom.of_test {text : List Char} {guard : Guard} (isTest : IsTest guard) : IsReadFrom text guard :=
  ⟨.single (.single isTest), fun _ => .single isTest, fun _ _ => isTest⟩

/-- An operand is of the layer that it is read as, and a test if it cannot be read. -/
theorem isReadFrom_orUnknown {operand : List Char}
    (read : ∀ guard, parse operand = .ok guard → IsReadFrom operand guard) :
    IsReadFrom operand (orUnknown operand (parse operand)) := by
  cases parsed : parse operand with
  | ok guard => exact read guard parsed
  | error error => exact .of_test (.unknown _)

/-- Every guard that a text parses to is read from it layer by layer: by induction along the
parser's calls. -/
theorem isReadFrom_of_parse (text : List Char) :
    ∀ guard, parse text = .ok guard → IsReadFrom text guard := by
  -- the induction follows the calls; the marks that a text lacks are lacking in all that is read below it
  induction text using parse.induct with
  | case1 text nothing =>
    intro guard read
    rw [parse_eq, nothing] at read
    cases read
  | case2 text c rest inner ands ih =>
    intro guard read
    rw [parse_eq, inner, parseBare_of_andMark ands] at read
    cases read
    refine ⟨.all ?_ ?_, fun noAnd => ?_, fun noAnd _ => ?_⟩
    · rw [List.length_map]
      exact two_le_length_split (by decide) ands
    · intro part member
      obtain ⟨operand, among, rfl⟩ := List.mem_map.mp member
      have noAnd := (within_and_not_infix_of_mem_split (by decide) among).2
      exact (isReadFrom_orUnknown (ih ⟨operand, among⟩)).clause noAnd
    all_goals
      have within := (occursIn_iff.mp ands).trans (inner ▸ unwrap_trim_within text)
      exact absurd within noAnd
  | case3 text c rest inner ands ors ih =>
    intro guard read
    rw [Bool.not_eq_true] at ands
    rw [parse_eq, inner, parseBare_of_orMark ands ors] at read
    cases read
    have clause : IsClause (.any ((split orMark (c :: rest)).map fun operand =>
        orUnknown operand (parse operand))) := by
      refine .any ?_ ?_
      · rw [List.length_map]
        exact two_le_length_split (by decide) ors
      · intro part member
        obtain ⟨operand, among, rfl⟩ := List.mem_map.mp member
        obtain ⟨within, noOr⟩ := within_and_not_infix_of_mem_split (by decide) among
        have noAnd : ¬ andMark <:+: operand := by
          intro occurs
          rw [occursIn_iff.mpr (occurs.trans within)] at ands
          cases ands
        exact (isReadFrom_orUnknown (ih ⟨operand, among⟩)).test noAnd noOr
    refine ⟨.single clause, fun _ => clause, fun _ noOr => ?_⟩
    have within := (occursIn_iff.mp ors).trans (inner ▸ unwrap_trim_within text)
    exact absurd within noOr
  | case4 text rest inner ands ors ih =>
    intro guard read
    rw [parse_eq, inner, parseBare, if_neg ands, if_neg ors, if_pos rfl] at read
    obtain ⟨negand, parsed, rfl⟩ : ∃ negand, parse rest = .ok negand ∧ negated negand = guard := by
      cases parsed : parse rest with
      | ok negand =>
        rw [parsed] at read
        exact ⟨negand, rfl, by simpa [Except.map] using read⟩
      | error error =>
        rw [parsed] at read
        cases read
    have behind : rest <:+: '!' :: rest := (List.suffix_cons '!' rest).isInfix
    rw [occursIn_iff] at ands ors
    have test := (ih negand parsed).test (fun occurs => ands (occurs.trans behind))
      fun occurs => ors (occurs.trans behind)
    exact .of_test (.negated test)
  | case5 text c rest inner ands ors positive =>
    intro guard read
    rw [parse_eq, inner, parseBare, if_neg ands, if_neg ors, if_neg positive] at read
    exact .of_test (isTest_of_parseTest read)

/-! ## The depth of the calls -/

/-- Reads a guard with calls nested so deep at most; nothing comes of it if that is not deep enough. -/
def parseWithin : Nat → List Char → Option (Except GuardError Guard)
  | 0, _ => none
  | depth + 1, text =>
    match unwrap (trim text) with
    | [] => some (.error .empty)
    | c :: rest =>
      if occursIn andMark (c :: rest) then
        ((split andMark (c :: rest)).mapM fun operand => (parseWithin depth operand).map (orUnknown operand)).map
          fun parts => .ok (.all parts)
      else if occursIn orMark (c :: rest) then
        ((split orMark (c :: rest)).mapM fun operand => (parseWithin depth operand).map (orUnknown operand)).map
          fun parts => .ok (.any parts)
      else if c = '!' then (parseWithin depth rest).map fun inner => inner.map negated
      else some (parseTest (c :: rest))

/-- An optional map over a list succeeds when it does on each item. -/
theorem mapM_eq_some {α β : Type} {items : List α} {f : α → Option β} {g : α → β}
    (each : ∀ item ∈ items, f item = some (g item)) : items.mapM f = some (items.map g) := by
  induction items with
  | nil => rfl
  | cons item rest ih =>
    rw [List.mapM_cons, each item (by simp), ih fun other member => each other (by simp [member])]
    rfl

/-- Reading ends within as many nested calls as the text has characters, and one. -/
theorem parseWithin_eq {depth : Nat} {text : List Char} (deep : text.length < depth) :
    parseWithin depth text = some (parse text) := by
  induction depth generalizing text with
  | zero => omega
  | succ depth ih =>
    have size := (unwrap_trim_within text).length_le
    rw [parse_eq, parseWithin]
    split
    · rename_i nothing
      rw [nothing, parseBare]
    · rename_i c rest inner
      rw [inner] at size ⊢
      -- each operand is shorter than the text, so the induction gives what it is read as
      have operands : ∀ mark : List Char, mark ≠ [] → occursIn mark (c :: rest) = true →
          ((split mark (c :: rest)).mapM fun operand => (parseWithin depth operand).map (orUnknown operand)) =
            some ((split mark (c :: rest)).map fun operand => orUnknown operand (parse operand)) := by
        intro mark nonempty occurs
        apply mapM_eq_some
        intro operand member
        have shorter := length_lt_of_mem_split nonempty occurs member
        rw [ih (by omega)]
        rfl
      rw [parseBare]
      split
      · rename_i ands
        rw [operands andMark (by decide) ands]
        rfl
      · split
        · rename_i ors
          rw [operands orMark (by decide) ors]
          rfl
        · split
          · rw [List.length_cons] at size
            rw [ih (by omega)]
            rfl
          · rfl

/-! ## Guards are layered -/

/-- Every guard that is read has the three layers and no others; every text is read within as many nested calls
as it has characters, and one; and a text that cannot be read has no connective, once it is trimmed and freed of
its braces. -/
theorem parse_isLayered (text : List Char) :
    (∀ guard, parse text = .ok guard → IsLayered guard) ∧
      (∀ depth, text.length < depth → parseWithin depth text = some (parse text)) ∧
      ∀ error, parse text = .error error →
        ¬ andMark <:+: unwrap (trim text) ∧ ¬ orMark <:+: unwrap (trim text) := by
  refine ⟨fun guard read => (isReadFrom_of_parse text guard read).layered, fun depth deep => parseWithin_eq deep,
    fun error unread => ?_⟩
  rw [parse_eq] at unread
  generalize unwrap (trim text) = body at unread
  have noAnd : occursIn andMark body = false := by
    by_contra ands
    rw [Bool.not_eq_false] at ands
    rw [parseBare_of_andMark ands] at unread
    cases unread
  have noOr : occursIn orMark body = false := by
    by_contra ors
    rw [Bool.not_eq_false] at ors
    rw [parseBare_of_orMark noAnd ors] at unread
    cases unread
  rw [← occursIn_iff, ← occursIn_iff, noAnd, noOr]
  exact ⟨Bool.false_ne_true, Bool.false_ne_true⟩

/-- Braces around the whole and around an operand, two negations in a row, and an operand that is no path. -/
def layeredText : List Char := "$\x7bvars.a || !!vars.b && $\x7bvars.rows.length > 2\x7d && vars..x\x7d".toList

/-- The guard that the text above is read as. -/
def layeredGuard : Guard :=
  .all [.any [.truthy ⟨.vars, ["a"], by decide⟩, .negated (.negated (.truthy ⟨.vars, ["b"], by decide⟩))],
    .length ⟨.vars, ["rows"], by decide⟩ .greater 2, .unknown "vars..x"]

/-- It is read as three layers, with calls nested less than a hundred deep; the operand that is no path cannot be
read by itself, and has no connective. -/
theorem parse_isLayered_trial :
    parse layeredText = .ok layeredGuard ∧ IsLayered layeredGuard ∧ layeredText.length < 100 ∧
      parseWithin 100 layeredText = some (parse layeredText) ∧
      parse "vars..x".toList = .error (.path (.invalidPath "vars..x")) ∧
      ¬ andMark <:+: unwrap (trim "vars..x".toList) := by
  have read : parse layeredText = .ok layeredGuard := by with_unfolding_all rfl
  have unread : parse "vars..x".toList = .error (.path (.invalidPath "vars..x")) := by with_unfolding_all rfl
  have short : layeredText.length < 100 := by decide
  obtain ⟨layered, ends, -⟩ := parse_isLayered layeredText
  obtain ⟨-, -, unconnected⟩ := parse_isLayered "vars..x".toList
  exact ⟨read, layered _ read, short, ends 100 short, unread, (unconnected _ unread).1⟩

end Stepwise.Guard
