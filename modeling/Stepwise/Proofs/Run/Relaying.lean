import Stepwise.Proofs.Action.Serviceless
import Stepwise.Proofs.Template.Rerouting
import Stepwise.Proofs.Value.Following

/-!
# Variables that pass a value on

A path leads where its rest leads from where its front leads, in every namespace. So a variable can pass on what a
path brings: when it was set to a template of that path, its origin, a path into the variable brings what the origin
brings with the same rest behind it. If the origin leads nowhere the variable holds the empty text, and what lies
behind that brings nothing either. A template is therefore resolved to the same if its paths through the variable
are written as paths that go on behind the origin.
-/

set_option autoImplicit false

namespace Stepwise

/-! ## Paths of a run -/

namespace Path

/-- The path that goes on behind a path. -/
def onward (path : Path) (rest : List String) : Path where
  root := path.root
  segments := path.segments ++ rest
  nonempty := List.append_ne_nil_of_left_ne_nil path.nonempty rest

/-- A path to a variable, or to something in it. -/
def Enters (name : String) (path : Path) : Prop := path.root = .vars ∧ path.segments.head? = some name

/-- Whether a path enters a variable can be decided. -/
instance (name : String) (path : Path) : Decidable (path.Enters name) :=
  inferInstanceAs (Decidable (_ ∧ _))

/-- The path that goes on behind the origin in place of the variable, if the path goes through the variable. -/
def replacing (origin : Path) (name : String) (path : Path) : Path :=
  if path.Enters name then origin.onward path.segments.tail else path

variable {name : String} {origin path : Path}

/-- A path that does not enter the variable is left as it is. -/
theorem replacing_of_not_enters (elsewhere : ¬ path.Enters name) : origin.replacing name path = path :=
  if_neg elsewhere

/-- A path that enters a variable goes on from it. -/
theorem exists_of_enters (enters : path.Enters name) :
    ∃ rest, path = ⟨.vars, name :: rest, List.cons_ne_nil name rest⟩ := by
  obtain ⟨root, segments, nonempty⟩ := path
  obtain ⟨rfl, named⟩ := enters
  obtain ⟨rest, rfl⟩ := List.head?_eq_some_iff.mp named
  exact ⟨rest, rfl⟩

/-- A path that enters the variable goes on from the origin instead. -/
theorem replacing_enters (rest : List String) :
    origin.replacing name ⟨.vars, name :: rest, List.cons_ne_nil name rest⟩ = origin.onward rest :=
  if_pos ⟨rfl, rfl⟩

/-- What goes on behind a path goes through the variables that the path goes through. -/
theorem enters_onward {rest : List String} : (origin.onward rest).Enters name ↔ origin.Enters name := by
  obtain ⟨root, segments, nonempty⟩ := origin
  obtain ⟨first, others, rfl⟩ := List.exists_cons_of_ne_nil nonempty
  exact Iff.rfl

/-- Once it is replaced, no path enters the variable, when the origin does not. -/
theorem not_enters_replacing (path : Path) (other : ¬ origin.Enters name) :
    ¬ (origin.replacing name path).Enters name := by
  by_cases enters : path.Enters name
  · rwa [replacing, if_pos enters, enters_onward]
  · rwa [replacing_of_not_enters enters]

end Path

namespace Context

/-- Nothing leads on from a variable of the environment. -/
theorem environmentValue?_append (environment : Table String) {front : List String} (nonempty : front ≠ [])
    (rest : List String) :
    environmentValue? environment (front ++ rest) =
      (environmentValue? environment front).bind fun inner => inner.follow? rest := by
  match front with
  | [] => exact absurd rfl nonempty
  | [name] =>
    cases found : Table.get? environment name <;> cases rest <;> simp [environmentValue?, found, Value.follow?]
  | name :: segment :: below => rfl

/-- A path of a run leads where its rest leads from where its front leads. -/
theorem lookup_onward (ctx : Context) (path : Path) (rest : List String) :
    ctx.lookup (path.onward rest) = (ctx.lookup path).bind fun inner => inner.follow? rest := by
  obtain ⟨root, segments, nonempty⟩ := path
  have inTable : ∀ fields : Fields, Value.followIn? fields (segments ++ rest) =
      (Value.followIn? fields segments).bind fun inner => inner.follow? rest := by
    intro fields
    rw [Value.followIn?_eq fields nonempty,
      Value.followIn?_eq fields (List.append_ne_nil_of_left_ne_nil nonempty rest), Value.follow?_append]
  cases root with
  | env => exact environmentValue?_append ctx.environment nonempty rest
  | config => exact inTable ctx.config
  | vars => exact inTable ctx.vars
  | collections => exact ctx.collections.follow?_append nonempty rest
  | item => rfl

/-! ## A variable that is set -/

/-- The context with a variable set. -/
def setting (ctx : Context) (name : String) (value : Value) : Context :=
  { ctx with vars := Table.put ctx.vars name value }

variable (ctx : Context) (name : String) (value : Value)

/-- A path that enters a variable is followed in the value that was stored there. -/
theorem lookup_setting (rest : List String) :
    (ctx.setting name value).lookup ⟨.vars, name :: rest, List.cons_ne_nil name rest⟩ = value.follow? rest := by
  simp only [lookup, setting, Value.followIn?, Table.get?_put_self, Option.bind_some]

/-- Storing a variable changes no lookup that does not enter it. -/
theorem lookup_setting_of_not_enters {path : Path} (elsewhere : ¬ path.Enters name) :
    (ctx.setting name value).lookup path = ctx.lookup path := by
  obtain ⟨root, segments, nonempty⟩ := path
  cases root with
  | vars =>
    obtain ⟨first, rest, rfl⟩ := List.exists_cons_of_ne_nil nonempty
    have distinct : first ≠ name := fun same => elsewhere ⟨rfl, congrArg some same⟩
    simp only [lookup, setting, Value.followIn?, Table.get?_put_of_ne ctx.vars value distinct]
  | _ => rfl

/-- What leads on from nothing brings as little as what leads on from the empty text. -/
theorem getD_follow? (found : Option Value) (rest : List String) :
    ((found.getD (.text "")).follow? rest).getD (.text "") =
      (found.bind fun inner => inner.follow? rest).getD (.text "") := by
  cases found with
  | some inner => rfl
  | none => cases rest <;> rfl

variable {name} {origin : Path}

/-- A path into a variable that was set to what its origin brings brings what the origin brings with the same rest
behind it. -/
theorem brought_setting (path : Path) :
    (ctx.setting name (ctx.scope.brought origin)).scope.brought path =
      ctx.scope.brought (origin.replacing name path) := by
  by_cases enters : path.Enters name
  · obtain ⟨rest, rfl⟩ := Path.exists_of_enters enters
    rw [Path.replacing_enters]
    calc
      _ = ((ctx.scope.brought origin).follow? rest).getD (.text "") :=
        congrArg (Option.getD · (.text "")) (lookup_setting ctx name _ rest)
      _ = ((ctx.lookup origin).bind fun inner => inner.follow? rest).getD (.text "") :=
        getD_follow? (ctx.lookup origin) rest
      _ = ctx.scope.brought (origin.onward rest) :=
        congrArg (Option.getD · (.text "")) (ctx.lookup_onward origin rest).symm
  · rw [Path.replacing_of_not_enters enters]
    exact congrArg (Option.getD · (.text "")) (lookup_setting_of_not_enters ctx name _ enters)

end Context

/-- Resolving a record's fields resolves each of them under its name. -/
theorem Value.get?_resolveFields (scope : Scope) (fields : Fields) (name : String) :
    Table.get? (resolveFields scope fields) name = (Table.get? fields name).map (resolve scope) := by
  induction fields with
  | nil => rfl
  | cons field rest ih =>
    obtain ⟨key, value⟩ := field
    rw [resolveFields, Table.get?_cons, Table.get?_cons, ih]
    split <;> rfl

/-! ## Setting a variable to what a path brings -/

namespace Context

section

variable (ctx : Context) {origin : Path} {target : String}

/-- A template that is one path alone resolves to what the path brings. -/
theorem brought_eq_of_isPathAlone {template : String} (alone : Template.IsPathAlone template origin)
    (inRun : origin.root ≠ .item) : Template.resolveText ctx.scope template = ctx.scope.brought origin :=
  alone.resolveText_eq (by simpa [scope] using inRun)

/-- The run serves the origin wherever it serves the variable. -/
theorem serves_replacing (inRun : origin.root ≠ .item) (path : Path) :
    ctx.scope.serves (origin.replacing target path).root = ctx.scope.serves path.root := by
  by_cases enters : path.Enters target
  · obtain ⟨rest, rfl⟩ := Path.exists_of_enters enters
    rw [Path.replacing_enters]
    simpa [scope, Path.onward] using inRun
  · rw [Path.replacing_of_not_enters enters]

/-- Storing what a path brings reroutes the variable to that path. -/
theorem reroutes_setting (inRun : origin.root ≠ .item) :
    Template.Reroutes (ctx.setting target (ctx.scope.brought origin)).scope ctx.scope (origin.replacing target) where
  serves_eq := rfl
  served := ctx.serves_replacing inRun
  brought_eq := ctx.brought_setting
  current_eq := rfl

/-- What does not go through the variable brings the same before and after. -/
theorem reroutes_within (inRun : origin.root ≠ .item) (other : ¬ origin.Enters target) :
    let stored := ctx.setting target (ctx.scope.brought origin)
    Template.Reroutes stored.scope stored.scope (origin.replacing target) where
  serves_eq := rfl
  served := ctx.serves_replacing inRun
  brought_eq path := by
    have elsewhere := Path.not_enters_replacing path other
    rw [brought_setting, brought_setting, Path.replacing_of_not_enters elsewhere]
  current_eq := rfl

/-- The step that sets a variable. -/
theorem dispatch_setVariable (services : Services) {params : Fields} {name : String} {value : Value}
    (named : Table.get? params "name" = some (.text name)) (nonempty : name ≠ "")
    (given : Table.get? params "value" = some value) :
    (Registry.standard services).dispatch "set_variable" params ctx =
      (.ok (.object [("variable", .text name), ("value", value)]), ctx.setting name value) := by
  have member : ("set_variable", Action.setVariable) ∈ Registry.serviceless := by
    simp [Registry.serviceless, Registry.inMemory]
  have nameRead : Params.requiredText ⟨"set_variable", params⟩ "name" = .ok name := by
    simp [Params.requiredText, Params.required, Params.get?, named, nonempty]
  have valueRead : Params.raw ⟨"set_variable", params⟩ "value" = value := by
    rw [Params.raw, given, Option.getD_some]
  simp only [Registry.dispatch, Registry.get?_standard services member, Action.setVariable, Action.checked]
  rw [nameRead, valueRead]
  rfl

/-- So templates with the variable resolve as those with the path in its place. -/
theorem templates_setting {template : String} (inRun : origin.root ≠ .item)
    (alone : Template.IsPathAlone template origin) {text other : String} :
    let stored := ctx.setting target (Template.resolveText ctx.scope template)
    List.Forall₂ (Template.Segment.IsRerouted stored.scope (origin.replacing target))
        (Template.parse text.toList) (Template.parse other.toList) →
      Template.resolveText stored.scope text = Template.resolveText ctx.scope other ∧
        (¬ origin.Enters target →
          Template.resolveText stored.scope text = Template.resolveText stored.scope other) := by
  rw [ctx.brought_eq_of_isPathAlone alone inRun]
  intro stored rerouted
  exact ⟨Template.resolveText_reroute (ctx.reroutes_setting inRun) rerouted,
    fun another => Template.resolveText_reroute (ctx.reroutes_within inRun another) rerouted⟩

end

/-- How a variable passes on what a path brings. -/
structure PassesOn (ctx : Context) : Prop where
  /-- A path leads where its rest leads from where its front leads, whatever namespace it starts in. -/
  lookups : ∀ (path : Path) (rest : List String),
    ctx.lookup (path.onward rest) = (ctx.lookup path).bind fun inner => inner.follow? rest
  /-- A step can set a variable to what a template is resolved to, and does nothing else. -/
  steps : ∀ (services : Services) (params : Fields) (name template target : String),
    Table.get? params "name" = some (.text name) → Table.get? params "value" = some (.text template) →
    Template.resolveText ctx.scope name = .text target → target ≠ "" →
    let value := Template.resolveText ctx.scope template
    (Registry.standard services).dispatch "set_variable" (ctx.resolveFields params) ctx =
      (.ok (.object [("variable", .text target), ("value", value)]), ctx.setting target value)
  /-- Where the origin leads to a value, paths into a variable with this value lead where the origin with the same
  rest leads. -/
  values : ∀ (origin : Path) (target : String) (value : Value) (rest : List String),
    ctx.lookup origin = some value →
    (ctx.setting target value).lookup ⟨.vars, target :: rest, List.cons_ne_nil target rest⟩ =
      ctx.lookup (origin.onward rest)
  /-- When a variable was set to what a template of the origin is resolved to, every template gives what it gave
  before with the origin in place of the variable; and what this gives now, unless the variable is the one that the
  origin goes through. -/
  templates : ∀ (origin : Path) (target template : String), origin.root ≠ .item →
    Template.IsPathAlone template origin →
    let stored := ctx.setting target (Template.resolveText ctx.scope template)
    ∀ text other : String,
      List.Forall₂ (Template.Segment.IsRerouted stored.scope (origin.replacing target))
        (Template.parse text.toList) (Template.parse other.toList) →
      Template.resolveText stored.scope text = Template.resolveText ctx.scope other ∧
        (¬ origin.Enters target →
          Template.resolveText stored.scope text = Template.resolveText stored.scope other)
  /-- So does a template that is a path into the variable alone, compared with the path that goes on behind a path
  into another variable. -/
  alone : ∀ (source target : String) (front rest : List String) (template through direct : String),
    Template.IsPathAlone template ⟨.vars, source :: front, List.cons_ne_nil source front⟩ →
    Template.IsPathAlone through ⟨.vars, target :: rest, List.cons_ne_nil target rest⟩ →
    Template.IsPathAlone direct ⟨.vars, source :: (front ++ rest), List.cons_ne_nil source (front ++ rest)⟩ →
    let stored := ctx.setting target (Template.resolveText ctx.scope template)
    Template.resolveText stored.scope through = Template.resolveText ctx.scope direct ∧
      (target ≠ source →
        Template.resolveText stored.scope through = Template.resolveText stored.scope direct)

/-- Paths compose. From every value a path leads to something exactly if its front leads to a value from which its
rest leads there; and so a variable that is set to what a path brings passes it on. -/
theorem passesOn :
    (∀ (root : Value) (front rest : List String) (found : Value),
      root.follow? (front ++ rest) = some found ↔
        ∃ inner, root.follow? front = some inner ∧ inner.follow? rest = some found) ∧
    ∀ ctx : Context, ctx.PassesOn := by
  refine ⟨fun root front rest found => ?_, fun ctx => ⟨ctx.lookup_onward, ?_, ?_, ?_, ?_⟩⟩
  · rw [Value.follow?_append, Option.bind_eq_some_iff]
  · intro services params name template target named given resolved nonempty
    apply ctx.dispatch_setVariable services _ nonempty
    · rw [resolveFields, Value.get?_resolveFields, given]
      rfl
    · rw [resolveFields, Value.get?_resolveFields, named, Option.map_some, Value.resolve, resolved]
  · intro origin target value rest led
    rw [lookup_setting, lookup_onward, led, Option.bind_some]
  · intro origin target template inRun alone stored text other
    exact ctx.templates_setting inRun alone
  · intro source target front rest template through direct alone throughAlone directAlone stored
    have inRun : Namespace.vars ≠ .item := by decide
    have directAlone' : Template.IsPathAlone direct (Path.replacing
        ⟨.vars, source :: front, List.cons_ne_nil source front⟩ target
        ⟨.vars, target :: rest, List.cons_ne_nil target rest⟩) := by
      rw [Path.replacing_enters]
      exact directAlone
    have served : stored.scope.serves .vars = true := rfl
    obtain ⟨before, after⟩ := ctx.templates_setting inRun alone (throughAlone.isRerouted directAlone' served)
    refine ⟨before, fun distinct => after fun enters => distinct ?_⟩
    exact (Option.some.inj enters.2).symm

/-- A context with a page of one row in a variable. -/
def pageTrial : Context :=
  { Context.start [] [] ⟨0, none, fun _ => .null, fun _ => .error "", (0, 0), [], []⟩ with
    vars := [("page", .record [("rows", .list [.record [("id", .count 7)]])])] }

/-- The row is passed on in a variable of its own: its field is read through that, and behind the path to the
row. -/
theorem passesOn_trial :
    let row : Path := ⟨.vars, ["page", "rows", "0"], by decide⟩
    let through : Path := ⟨.vars, ["first", "id"], by decide⟩
    let direct : Path := ⟨.vars, ["page", "rows", "0", "id"], by decide⟩
    let stored := pageTrial.setting "first" (Template.resolveText pageTrial.scope "$\x7bvars.page.rows.0\x7d")
    Template.IsPathAlone "$\x7bvars.page.rows.0\x7d" row ∧
    Template.IsPathAlone "$\x7bvars.first.id\x7d" through ∧
    Template.IsPathAlone "$\x7bvars.page.rows.0.id\x7d" direct ∧
    Template.resolveText stored.scope "$\x7bvars.first.id\x7d" =
      Template.resolveText stored.scope "$\x7bvars.page.rows.0.id\x7d" ∧
    Template.resolveText stored.scope "$\x7bvars.first.id\x7d" = .count 7 := by
  intro row through direct stored
  have plain : ∀ word ∈ ["page", "rows", "0", "first", "id"], Template.IsPlainWord word := by
    simp [Template.IsPlainWord, Template.isPlain, Template.signs, Text.isBlank]
  have rowAlone : Template.IsPathAlone "$\x7bvars.page.rows.0\x7d" row :=
    Template.isPathAlone_of_written (fun word member => plain word (by revert word; decide)) (by decide +kernel)
  have throughAlone : Template.IsPathAlone "$\x7bvars.first.id\x7d" through :=
    Template.isPathAlone_of_written (fun word member => plain word (by revert word; decide)) (by decide +kernel)
  have directAlone : Template.IsPathAlone "$\x7bvars.page.rows.0.id\x7d" direct :=
    Template.isPathAlone_of_written (fun word member => plain word (by revert word; decide)) (by decide +kernel)
  obtain ⟨before, after⟩ := (passesOn.2 pageTrial).alone "page" "first" ["rows", "0"] ["id"] _ _ _
    rowAlone throughAlone directAlone
  refine ⟨rowAlone, throughAlone, directAlone, after (by decide), before.trans ?_⟩
  exact directAlone.resolveText_eq rfl

end Context

end Stepwise
