import Stepwise.Proofs.Template.Keeping
import Stepwise.Proofs.Template.Matching
import Stepwise.Proofs.Template.RoundTrip

/-!
# Templates with other paths

A template is rerouted if the paths in its holes are changed and all else stays. Where a scope brings along the
changed paths what another brings along the paths themselves, the template and the rerouted one are resolved to
the same, each in its scope.
-/

set_option autoImplicit false

namespace Stepwise.Template

/-- An alternative with its path changed. -/
def Alternative.reroute (change : Path → Path) : Alternative → Alternative
  | .path named => .path (change named)
  | alternative => alternative

/-- Segments that are the same but for the paths that are changed. A hole that stays as it is written stays the
same. -/
inductive Segment.IsRerouted (scope : Scope) (change : Path → Path) : Segment → Segment → Prop
  | literal (text : List Char) : IsRerouted scope change (.literal text) (.literal text)
  | kept {source : List Char} (stays : fill scope source = .kept) :
    IsRerouted scope change (.hole source) (.hole source)
  | filled {source other : List Char} {expression : Expression} (read : Expression.parse source = .ok expression)
      (readOther : Expression.parse other = .ok (expression.map (Alternative.reroute change)))
      (settled : expression.evaluate scope ≠ .kept) : IsRerouted scope change (.hole source) (.hole other)

/-- A scope brings along changed paths what another brings along the paths themselves. -/
structure Reroutes (s t : Scope) (change : Path → Path) : Prop where
  serves_eq : s.serves = t.serves
  served : ∀ path : Path, s.serves (change path).root = s.serves path.root
  brought_eq : ∀ path, s.brought path = t.brought (change path)
  current_eq : s.current = t.current

/-- Which holes stay depends on what is served alone. -/
theorem fill_eq_kept_of_serves_eq {s t : Scope} (serves_eq : s.serves = t.serves) {source : List Char}
    (stays : fill s source = .kept) : fill t source = .kept := by
  rw [fill_eq_kept_iff] at stays ⊢
  cases stays with
  | unreadable error read => exact .unreadable error read
  | foreign text read => exact .foreign text read
  | unserved expression path read mentioned refused =>
    exact .unserved expression path read mentioned (serves_eq ▸ refused)

section

variable {s t : Scope} {change : Path → Path} (reroutes : Reroutes s t change)
include reroutes

/-- An alternative matches itself with its path rerouted. -/
theorem matches_reroute (alternative : Alternative) : alternative.Matches s t (alternative.reroute change) := by
  cases alternative with
  | literal text => exact .literal text
  | path named => exact .path (by rw [← reroutes.serves_eq, reroutes.served]) (reroutes.brought_eq named)
  | token token => exact .token (congrFun reroutes.current_eq token)
  | foreign text => exact .foreign text

/-- A segment matches every segment that it is rerouted to. -/
theorem Segment.IsRerouted.matches {segment other : Segment} (rerouted : segment.IsRerouted s change other) :
    segment.Matches s t other := by
  cases rerouted with
  | literal text => exact .literal text
  | kept stays =>
    have staysToo := fill_eq_kept_of_serves_eq reroutes.serves_eq stays
    exact .same (by rw [stays, staysToo])
  | filled read readOther settled =>
    refine .holes read readOther ?_ settled
    rw [List.forall₂_map_right_iff, List.forall₂_same]
    exact fun alternative _ => matches_reroute reroutes alternative

/-- A template is resolved to the same as the template with the paths changed. -/
theorem resolveText_reroute {text other : String}
    (rerouted : List.Forall₂ (Segment.IsRerouted s change) (parse text.toList) (parse other.toList)) :
    resolveText s text = resolveText t other :=
  resolveText_of_matching (rerouted.imp fun _ _ here => here.matches reroutes)

end

/-! ## A path alone -/

/-- A template that is one hole with a path in it and nothing else, in any spelling. -/
def IsPathAlone (text : String) (path : Path) : Prop :=
  ∃ source, parse text.toList = [.hole source] ∧ Expression.parse source = .ok [.path path]

/-- A path alone that is served resolves to what it brings, as a value and not as a text. -/
theorem IsPathAlone.resolveText_eq {scope : Scope} {text : String} {path : Path} (alone : IsPathAlone text path)
    (served : scope.serves path.root = true) : resolveText scope text = scope.brought path := by
  obtain ⟨source, parsed, read⟩ := alone
  have ready : [Alternative.path path].any (Alternative.waits scope) = false := by
    simp [Alternative.waits, served]
  rw [resolveText_of_hole parsed, Outcome.replace_eq, fill, read]
  simp only [filling?_evaluate, ready, Bool.false_eq_true, if_false, Option.getD_some]

/-- A path alone is rerouted as a whole. -/
theorem IsPathAlone.isRerouted {scope : Scope} {change : Path → Path} {text other : String} {path : Path}
    (alone : IsPathAlone text path) (otherAlone : IsPathAlone other (change path))
    (served : scope.serves path.root = true) :
    List.Forall₂ (Segment.IsRerouted scope change) (parse text.toList) (parse other.toList) := by
  obtain ⟨source, parsed, read⟩ := alone
  obtain ⟨otherSource, otherParsed, otherRead⟩ := otherAlone
  have settled : Expression.evaluate scope [.path path] ≠ .kept := by
    intro stays
    rcases evaluate_eq_kept_iff.mp stays with ⟨named, mentioned, refused⟩ | ⟨foreign, eq⟩
    · cases List.mem_singleton.mp mentioned
      rw [served] at refused
      cases refused
    · cases eq
  rw [parsed, otherParsed]
  exact .cons (.filled read otherRead settled) .nil

/-- A path of plain segments stands alone where its text is written in a hole. -/
theorem isPathAlone_of_written {text : String} {path : Path}
    (plain : ∀ segment ∈ path.segments, IsPlainWord segment)
    (written : text.toList = opening ++ path.text.toList ++ ['}']) : IsPathAlone text path := by
  let alternatives : List Padded := [⟨[], .path path plain, [], List.forall_mem_nil _, List.forall_mem_nil _⟩]
  have nonempty : alternatives ≠ [] := List.cons_ne_nil _ _
  have whole : source alternatives = path.text.toList := List.append_nil _
  refine ⟨source alternatives, ?_, parse_source nonempty⟩
  have parsed : parse ([Piece.hole alternatives nonempty].flatMap Piece.text) = _ :=
    parse_text (List.isChain_singleton _)
  rw [written, ← whole]
  simpa [Piece.text, Piece.segment] using parsed

end Stepwise.Template
