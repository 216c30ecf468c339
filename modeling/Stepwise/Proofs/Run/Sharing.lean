import Stepwise.Proofs.Guard.RoundTrip
import Stepwise.Proofs.Template.Matching
import Stepwise.Proofs.Template.RoundTrip
import Stepwise.Proofs.Value.Following

/-!
# Collections and variables are read alike

A collection and a variable of one name may hold the same records. A path then leads to the same value from
either of them: a path into the collection takes its first step by rules of the collections, which are the rules
for lists. So it makes no difference to a template or to a guard through which of the two its paths go. To say
so of texts, the paths of both are taken to the variable: texts that read the same then resolve and hold alike.
-/

set_option autoImplicit false

namespace Stepwise

/-! ## Look-ups -/

/-- A collection and a variable of that name hold the same records. -/
def Context.Shares (ctx : Context) (name : String) : Prop :=
  ∃ records, Table.get? ctx.collections name = some records ∧ Table.get? ctx.vars name = some (.list records)

/-- A name that is shared is looked up alike as a collection and as a variable. -/
theorem Context.Shares.lookup_eq {ctx : Context} {name : String} (shares : ctx.Shares name) {path other : Path}
    (root : path.root = .collections) (otherRoot : other.root = .vars) (segments : path.segments = other.segments)
    (named : path.segments.head? = some name) : ctx.lookup path = ctx.lookup other := by
  obtain ⟨records, collection, variable_⟩ := shares
  obtain ⟨below, segments_eq⟩ := List.head?_eq_some_iff.mp named
  rw [Context.lookup, Context.lookup, root, otherRoot, ← segments, segments_eq]
  simp only [Value.followIn?, variable_, Option.bind_some]
  exact Collections.follow?_eq collection below

section

variable (shared : String → Bool)

/-! ## Through variables -/

/-- A path into a shared collection. -/
def Path.entersShared (path : Path) : Prop :=
  path.root = .collections ∧ path.segments.head?.any shared = true

/-- Whether a path enters a shared collection can be decided. -/
instance (path : Path) : Decidable (path.entersShared shared) :=
  inferInstanceAs (Decidable (_ ∧ _))

/-- The path through the variable, if the path is one into a shared collection. -/
def Path.viaVars (path : Path) : Path :=
  { path with root := if path.entersShared shared then .vars else path.root }

/-- A scope in which it makes no difference whether a path goes through a shared collection or through the
variable of its name. -/
structure Scope.IsShared (scope : Scope) : Prop where
  serves_eq : scope.serves .collections = scope.serves .vars
  lookup_eq : ∀ path : Path, scope.lookup (path.viaVars shared) = scope.lookup path

variable {shared}

/-- A path that enters no shared collection stays as it is. -/
theorem Path.viaVars_eq_self {path : Path} (elsewhere : ¬ path.entersShared shared) :
    path.viaVars shared = path := by
  rw [viaVars, if_neg elsewhere]

/-- Going by the variables is done once and for all. -/
theorem Path.viaVars_viaVars (path : Path) : (path.viaVars shared).viaVars shared = path.viaVars shared := by
  by_cases enters : path.entersShared shared
  · exact viaVars_eq_self fun again => by cases (if_pos enters).symm.trans again.1
  · rw [viaVars_eq_self enters, viaVars_eq_self enters]

/-- A path that enters a shared collection then starts from the variables. -/
theorem Path.root_viaVars {path : Path} (enters : path.entersShared shared) :
    (path.viaVars shared).root = .vars :=
  if_pos enters

/-- The scopes of a run: its own, and those in which it transforms records. -/
def Context.HasScope (ctx : Context) (scope : Scope) : Prop :=
  scope = ctx.scope ∨ ∃ item, scope = ctx.itemScope item

section

variable {ctx : Context} (shares : ∀ name, shared name = true → ctx.Shares name)
include shares

/-- Going by the variables looks up the same. -/
theorem Context.lookup_viaVars (path : Path) : ctx.lookup (path.viaVars shared) = ctx.lookup path := by
  by_cases enters : path.entersShared shared
  · obtain ⟨name, named, isShared⟩ := (Option.any_eq_true shared _).mp enters.2
    exact ((shares name isShared).lookup_eq enters.1 (Path.root_viaVars enters) rfl named).symm
  · rw [Path.viaVars_eq_self enters]

/-- Each of a run's scopes brings the same for a path and for that path by the variables. -/
theorem Context.HasScope.isShared {scope : Scope} (has : ctx.HasScope scope) : scope.IsShared shared := by
  rcases has with rfl | ⟨item, rfl⟩
  · exact ⟨rfl, lookup_viaVars shares⟩
  · refine ⟨rfl, fun path => ?_⟩
    by_cases enters : path.entersShared shared
    · -- before and after the move the path is none into the record
      have notItem : path.root ≠ .item := by simp [enters.1]
      have notItemEither : (path.viaVars shared).root ≠ .item := by simp [Path.root_viaVars enters]
      simp only [itemScope, notItem, notItemEither, if_false]
      exact lookup_viaVars shares path
    · rw [Path.viaVars_eq_self enters]

end

/-! ## Templates -/

namespace Template

variable (shared) in
/-- An alternative with its path through the variable. -/
def Alternative.viaVars : Alternative → Alternative
  | .path named => .path (named.viaVars shared)
  | alternative => alternative

section

variable {scope : Scope} (isShared : scope.IsShared shared)
include isShared

/-- A path brings the same through the variable. -/
theorem matches_viaVars (alternative : Alternative) :
    alternative.Matches scope scope (alternative.viaVars shared) := by
  cases alternative with
  | path named =>
    refine .path ?_ ?_
    · by_cases enters : named.entersShared shared
      · rw [Path.root_viaVars enters, enters.1, isShared.serves_eq]
      · rw [Path.viaVars_eq_self enters]
    · rw [Scope.brought, Scope.brought, isShared.lookup_eq]
  | _ => exact .refl _

/-- Expressions that are the same through variables match. -/
theorem matching_of_viaVars {first second : Expression}
    (alike : first.map (Alternative.viaVars shared) = second.map (Alternative.viaVars shared)) :
    List.Forall₂ (Alternative.Matches scope scope) first second := by
  have viaVars_eq : List.Forall₂ (fun here there => here.viaVars shared = there.viaVars shared) first second :=
    List.forall₂_map_right_iff.mp (List.forall₂_map_left_iff.mp (List.forall₂_eq_eq_eq ▸ alike))
  refine viaVars_eq.imp fun here there same => ?_
  have onward := matches_viaVars isShared here
  have back := matches_viaVars isShared there
  rw [← same] at back
  exact onward.trans back.symm

end

variable (shared) in
/-- Segments that read the same through variables. A hole that stays as it is written, as it has to wait for a
record or has no meaning, reads the same as itself alone. -/
inductive Segment.IsAlike (scope : Scope) : Segment → Segment → Prop
  | same (segment : Segment) : IsAlike scope segment segment
  | holes {source other : List Char} {first second : Expression} (read : Expression.parse source = .ok first)
      (readOther : Expression.parse other = .ok second)
      (alike : first.map (Alternative.viaVars shared) = second.map (Alternative.viaVars shared))
      (settled : first.evaluate scope ≠ .kept) : IsAlike scope (.hole source) (.hole other)

section

variable {scope : Scope} (isShared : scope.IsShared shared)
include isShared

/-- Segments that are alike resolve to the same. -/
theorem Segment.IsAlike.matches {segment other : Segment} (alike : segment.IsAlike shared scope other) :
    segment.Matches scope scope other := by
  cases alike with
  | same =>
    cases segment with
    | literal text => exact .literal text
    | hole source => exact .same rfl
  | holes read readOther alike settled =>
    exact .holes read readOther (matching_of_viaVars isShared alike) settled

/-- Texts resolve alike if their segments read the same through variables. -/
theorem resolveText_of_alike {text other : String}
    (alike : List.Forall₂ (Segment.IsAlike shared scope) (parse text.toList) (parse other.toList)) :
    resolveText scope text = resolveText scope other :=
  resolveText_of_matching (alike.imp fun _ _ here => here.matches isShared)

end

/-! ## Templates as they are written -/

variable (shared) in
/-- The same spelling with its path by the variables. -/
def Spelling.viaVars : Spelling → Spelling
  | .path named plain => .path (named.viaVars shared) plain
  | spelling => spelling

variable (shared) in
/-- The same alternative with its path by the variables. -/
def Padded.viaVars (padded : Padded) : Padded := { padded with spelling := padded.spelling.viaVars shared }

variable (shared) in
/-- A piece with its paths written through variables. -/
def Piece.viaVars : Piece → Piece
  | .literal text nonempty closed => .literal text nonempty closed
  | .hole alternatives nonempty =>
    .hole (alternatives.map (Padded.viaVars shared)) (by simpa using nonempty)

/-- A piece without a path that has to wait. -/
def Piece.IsServed (scope : Scope) : Piece → Prop
  | .literal _ _ _ => True
  | .hole alternatives _ => ∀ padded ∈ alternatives, padded.spelling.meaning.waits scope = false

/-- What it means is the meaning, by the variables. -/
theorem Padded.meaning_viaVars (padded : Padded) :
    (padded.viaVars shared).spelling.meaning = padded.spelling.meaning.viaVars shared := by
  obtain ⟨before, spelling, after, blankBefore, blankAfter⟩ := padded
  cases spelling <;> rfl

/-- What was written has a meaning, so it is kept only if it has to wait. -/
theorem evaluate_written_ne_kept {scope : Scope} {alternatives : List Padded}
    (served : ∀ padded ∈ alternatives, padded.spelling.meaning.waits scope = false) :
    Expression.evaluate scope (alternatives.map fun padded => padded.spelling.meaning) ≠ .kept := by
  have ready : (alternatives.map fun padded => padded.spelling.meaning).any (Alternative.waits scope) = false := by
    rw [List.any_map, List.any_eq_false]
    exact fun padded member => by simp [served padded member]
  unfold Expression.evaluate
  rw [ready, if_neg Bool.false_ne_true]
  split
  · simp
  · simp
  · -- a foreign text is not written
    rename_i foreign single
    obtain ⟨padded, rfl, meaning⟩ := List.map_eq_singleton_iff.mp single
    cases written : padded.spelling <;> simp [written, Spelling.meaning] at meaning
  · split <;> simp
  · simp

/-- A piece that the scope serves is alike to the piece by the variables. -/
theorem Piece.isAlike_viaVars {scope : Scope} {piece : Piece} (served : piece.IsServed scope) :
    piece.segment.IsAlike shared scope (piece.viaVars shared).segment := by
  cases piece with
  | literal text => exact .same _
  | hole alternatives nonempty =>
    have nonemptyEither : alternatives.map (Padded.viaVars shared) ≠ [] := by simpa using nonempty
    refine .holes (parse_source nonempty) (parse_source nonemptyEither) ?_ (evaluate_written_ne_kept served)
    rw [List.map_map, List.map_map, List.map_map]
    -- what has gone through variables once stays there
    refine List.map_congr_left fun padded _ => ?_
    rw [Function.comp_apply, Function.comp_apply, Function.comp_apply, padded.meaning_viaVars]
    cases padded.spelling.meaning with
    | path named => rw [Alternative.viaVars, Alternative.viaVars, named.viaVars_viaVars]
    | _ => rfl

/-- A written template resolves to the same when its paths go by the variables. -/
theorem resolveText_written {scope : Scope} (isShared : scope.IsShared shared) {pieces : List Piece}
    (apart : pieces.IsChain fun piece next => ¬ (piece.IsLiteral ∧ next.IsLiteral))
    (served : ∀ piece ∈ pieces, piece.IsServed scope) :
    resolveText scope (String.ofList (pieces.flatMap Piece.text)) =
      resolveText scope (String.ofList ((pieces.map (Piece.viaVars shared)).flatMap Piece.text)) := by
  have isLiteral : ∀ piece : Piece, (piece.viaVars shared).IsLiteral ↔ piece.IsLiteral := by
    rintro (_ | _) <;> rfl
  have apartEither : (pieces.map (Piece.viaVars shared)).IsChain
      fun piece next => ¬ (piece.IsLiteral ∧ next.IsLiteral) := by
    rw [List.isChain_map]
    simpa only [isLiteral] using apart
  apply resolveText_of_alike isShared
  rw [String.toList_ofList, String.toList_ofList, parse_text apart, parse_text apartEither, List.map_map,
    List.forall₂_map_left_iff, List.forall₂_map_right_iff, List.forall₂_same]
  exact fun piece member => Piece.isAlike_viaVars (served piece member)

end Template

/-! ## Guards -/

namespace Guard

section

variable (shared)

mutual

/-- A guard with its paths through variables, and without the words that only say what could not be read. -/
def viaVars : Guard → Guard
  | .all parts => .all (viaVarsEach parts)
  | .any parts => .any (viaVarsEach parts)
  | .negated inner => .negated (viaVars inner)
  | .length named op bound => .length (named.viaVars shared) op bound
  | .unresolvedLength _ op bound => .unresolvedLength "" op bound
  | .truthy named => .truthy (named.viaVars shared)
  | .unknown _ => .unknown ""

/-- The parts of a guard with their paths by the variables. -/
def viaVarsEach : List Guard → List Guard
  | [] => []
  | part :: rest => viaVars part :: viaVarsEach rest

end

end

section

variable {scope : Scope}

mutual

/-- A guard holds just when it does with its paths by the variables: by induction on the guard. -/
theorem holds_viaVars (isShared : scope.IsShared shared) (guard : Guard) :
    (guard.viaVars shared).holds scope = guard.holds scope := by
  cases guard with
  | all parts => rw [viaVars, holds, holds, allHold_viaVars isShared parts]
  | any parts => rw [viaVars, holds, holds, anyHolds_viaVars isShared parts]
  | negated inner => rw [viaVars, holds, holds, holds_viaVars isShared inner]
  | length named op bound => rw [viaVars, holds, holds, isShared.lookup_eq]
  | truthy named => rw [viaVars, holds, holds, isShared.lookup_eq]
  | unresolvedLength text op bound => rw [viaVars, holds, holds]
  | unknown text => rw [viaVars, holds, holds]

/-- The same of the parts of a conjunction. -/
theorem allHold_viaVars (isShared : scope.IsShared shared) (parts : List Guard) :
    allHold scope (viaVarsEach shared parts) = allHold scope parts := by
  cases parts with
  | nil => rfl
  | cons part rest =>
    rw [viaVarsEach, allHold, allHold, holds_viaVars isShared part, allHold_viaVars isShared rest]

/-- The same of the parts of a disjunction. -/
theorem anyHolds_viaVars (isShared : scope.IsShared shared) (parts : List Guard) :
    anyHolds scope (viaVarsEach shared parts) = anyHolds scope parts := by
  cases parts with
  | nil => rfl
  | cons part rest =>
    rw [viaVarsEach, anyHolds, anyHolds, holds_viaVars isShared part, anyHolds_viaVars isShared rest]

end

/-- Texts hold alike if their guards read the same through variables, or neither can be read. -/
theorem textHolds_of_alike (isShared : scope.IsShared shared) {text other : String}
    (alike : (parse text.toList).toOption.map (viaVars shared) =
      (parse other.toList).toOption.map (viaVars shared)) :
    textHolds scope text = textHolds scope other := by
  rw [textHolds, textHolds]
  cases read : parse text.toList with
  | error error =>
    cases readOther : parse other.toList with
    | error otherError => rfl
    | ok guard => simp [read, readOther, Except.toOption] at alike
  | ok guard =>
    cases readOther : parse other.toList with
    | error error => simp [read, readOther, Except.toOption] at alike
    | ok otherGuard =>
      have same : guard.viaVars shared = otherGuard.viaVars shared := by
        simpa [read, readOther, Except.toOption] using alike
      show guard.holds scope = otherGuard.holds scope
      rw [← holds_viaVars isShared guard, same, holds_viaVars isShared otherGuard]

end

/-! ## Guards as they are written -/

section

variable (shared)

/-- The same test with its path by the variables. -/
def Test.viaVars : Test → Test
  | .value named isWord => .value (named.viaVars shared) isWord
  | .length named isWord measure => .length (named.viaVars shared) isWord measure
  | test => test

/-- The same factor with its path by the variables. -/
def Factor.viaVars (factor : Factor) : Factor := { factor with test := factor.test.viaVars shared }

/-- The same clause with its paths by the variables. -/
def Clause.viaVars (clause : Clause) : Clause where
  factors := clause.factors.map (Factor.viaVars shared)
  nonempty := by simpa using clause.nonempty

/-- The same chain with its paths by the variables. -/
def Chain.viaVars (chain : Chain) : Chain where
  clauses := chain.clauses.map (Clause.viaVars shared)
  nonempty := by simpa using chain.nonempty

end

/-- Part by part the paths go by the variables. -/
theorem viaVarsEach_eq_map (parts : List Guard) : viaVarsEach shared parts = parts.map (viaVars shared) := by
  induction parts with
  | nil => rfl
  | cons part rest ih => rw [viaVarsEach, List.map_cons, ih]

/-- Guards that are put together go through variables one by one. -/
theorem viaVars_combine {together : List Guard → Guard}
    (each : ∀ parts, (together parts).viaVars shared = together (parts.map (viaVars shared)))
    (guards : List Guard) :
    (combine together guards).viaVars shared = combine together (guards.map (viaVars shared)) := by
  match guards with
  | [] => exact each []
  | [guard] => rfl
  | first :: second :: rest => exact each _

/-- By the variables a test and its rewritten spelling are one guard. -/
theorem Test.guard_viaVars (test : Test) :
    (test.viaVars shared).guard.viaVars shared = test.guard.viaVars shared := by
  cases test with
  | value named => simp only [viaVars, guard, Guard.viaVars, named.viaVars_viaVars]
  | length named => simp only [viaVars, guard, Guard.viaVars, named.viaVars_viaVars]
  | _ => rfl

/-- So are a factor and its rewritten spelling. -/
theorem Factor.guard_viaVars (factor : Factor) :
    (factor.viaVars shared).guard.viaVars shared = factor.guard.viaVars shared := by
  have negations : ∀ n, Function.Semiconj (Guard.viaVars shared) negated^[n] negated^[n] :=
    Function.Semiconj.iterate_right fun _ => by rw [Guard.viaVars]
  rw [Factor.guard, Factor.guard, (negations _).eq, (negations _).eq]
  exact congrArg negated^[factor.negations] factor.test.guard_viaVars

/-- So are a clause and its rewritten spelling. -/
theorem Clause.guard_viaVars (clause : Clause) :
    (clause.viaVars shared).guard.viaVars shared = clause.guard.viaVars shared := by
  have each : ∀ parts, (any parts).viaVars shared = any (parts.map (Guard.viaVars shared)) :=
    fun parts => by rw [Guard.viaVars, viaVarsEach_eq_map]
  rw [Clause.guard, Clause.guard, viaVars_combine each, viaVars_combine each, viaVars, List.map_map, List.map_map,
    List.map_map]
  exact congrArg (combine any) (List.map_congr_left fun factor _ => factor.guard_viaVars)

/-- So are a chain and its rewritten spelling. -/
theorem Chain.guard_viaVars (chain : Chain) :
    (chain.viaVars shared).guard.viaVars shared = chain.guard.viaVars shared := by
  have each : ∀ parts, (all parts).viaVars shared = all (parts.map (Guard.viaVars shared)) :=
    fun parts => by rw [Guard.viaVars, viaVarsEach_eq_map]
  rw [Chain.guard, Chain.guard, viaVars_combine each, viaVars_combine each, viaVars, List.map_map, List.map_map,
    List.map_map]
  exact congrArg (combine all) (List.map_congr_left fun clause _ => clause.guard_viaVars)

/-- A written condition holds just when it does with its paths by the variables. -/
theorem textHolds_written {scope : Scope} (isShared : scope.IsShared shared) (chain : Chain) (wrapped : Bool) :
    textHolds scope (String.ofList (chain.written wrapped)) =
      textHolds scope (String.ofList ((chain.viaVars shared).written wrapped)) := by
  apply textHolds_of_alike isShared
  rw [String.toList_ofList, String.toList_ofList, chain.parse_written, (chain.viaVars shared).parse_written]
  exact congrArg some chain.guard_viaVars.symm

end Guard

end

/-! ## Contexts -/

/-- A context in which it makes no difference whether something is read through a shared collection or through
the variable of its name. -/
structure Context.ReadsAlike (ctx : Context) (shared : String → Bool) : Prop where
  /-- Any path below a shared name leads to the same value from both, or from neither to one. -/
  lookups : ∀ name, shared name = true → ∀ below,
    ctx.lookup ⟨.collections, name :: below, List.cons_ne_nil name below⟩ =
      ctx.lookup ⟨.vars, name :: below, List.cons_ne_nil name below⟩
  /-- Templates whose holes read the same through variables resolve alike. -/
  templates : ∀ scope, ctx.HasScope scope → ∀ text other : String,
    List.Forall₂ (Template.Segment.IsAlike shared scope) (Template.parse text.toList)
      (Template.parse other.toList) →
    Template.resolveText scope text = Template.resolveText scope other
  /-- So does a template that is written anew, with its paths through the variables. -/
  writtenTemplates : ∀ scope, ctx.HasScope scope → ∀ pieces : List Template.Piece,
    (pieces.IsChain fun piece next => ¬ (piece.IsLiteral ∧ next.IsLiteral)) →
    (∀ piece ∈ pieces, piece.IsServed scope) →
    Template.resolveText scope (String.ofList (pieces.flatMap Template.Piece.text)) =
      Template.resolveText scope
        (String.ofList ((pieces.map (Template.Piece.viaVars shared)).flatMap Template.Piece.text))
  /-- Guards that read the same through variables hold alike. -/
  guards : ∀ scope, ctx.HasScope scope → ∀ text other : String,
    (Guard.parse text.toList).toOption.map (Guard.viaVars shared) =
      (Guard.parse other.toList).toOption.map (Guard.viaVars shared) →
    Guard.textHolds scope text = Guard.textHolds scope other
  /-- So does a guard that is written anew. -/
  writtenGuards : ∀ scope, ctx.HasScope scope → ∀ (chain : Guard.Chain) (wrapped : Bool),
    Guard.textHolds scope (String.ofList (chain.written wrapped)) =
      Guard.textHolds scope (String.ofList ((chain.viaVars shared).written wrapped))

/-- Collections and variables are read alike: where a collection and the variable of its name hold the same
records, every path leads to the same from both of them, and so every template and every guard gives the same
through either. -/
theorem Context.readsAlike_of_shares (ctx : Context) (shared : String → Bool)
    (shares : ∀ name, shared name = true → ctx.Shares name) : ctx.ReadsAlike shared where
  lookups name isShared _ := (shares name isShared).lookup_eq rfl rfl rfl rfl
  templates _ has _ _ alike := Template.resolveText_of_alike (has.isShared shares) alike
  writtenTemplates _ has _ apart served := Template.resolveText_written (has.isShared shares) apart served
  guards _ has _ _ alike := Guard.textHolds_of_alike (has.isShared shares) alike
  writtenGuards _ has chain wrapped := Guard.textHolds_written (has.isShared shares) chain wrapped

/-- A context with leads in a collection and in a variable. -/
def Context.leadsTrial : Context :=
  let leads := [.record [("mail", .text "a@b")], .record []]
  { Context.start [] [] ⟨0, none, fun _ => .null, fun _ => .error "", (0, 0), [], []⟩ with
    collections := [("leads", leads)], vars := [("leads", .list leads)] }

/-- The leads are read alike, down to a field of one of them. -/
theorem Context.readsAlike_leadsTrial :
    (∀ name, (name == "leads") = true → leadsTrial.Shares name) ∧
    leadsTrial.ReadsAlike (· == "leads") ∧
    leadsTrial.lookup ⟨.collections, ["leads", "0", "mail"], by decide⟩ = some (.text "a@b") ∧
    leadsTrial.lookup ⟨.vars, ["leads", "0", "mail"], by decide⟩ = some (.text "a@b") := by
  have shares : ∀ name, (name == "leads") = true → leadsTrial.Shares name := by
    intro name isLeads
    rw [beq_iff_eq.mp isLeads]
    exact ⟨_, rfl, rfl⟩
  have alike := readsAlike_of_shares leadsTrial (· == "leads") shares
  have found : leadsTrial.lookup ⟨.collections, ["leads", "0", "mail"], by decide⟩ = some (.text "a@b") := by
    rfl
  exact ⟨shares, alike, found, (alike.lookups "leads" (by decide) ["0", "mail"]).symm.trans found⟩

end Stepwise
