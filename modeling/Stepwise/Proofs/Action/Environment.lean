import Mathlib.Data.List.Basic
import Stepwise.Proofs.Action.Serviceless
import Stepwise.Proofs.Template.Agreement

/-!
# What the environment can tell an action

Parameters that mention no path of the environment resolve to the same in every environment, and the actions
that keep to the memory of a run do the same with them: they give the same answer and leave the same stores.
One of them reads its resolved parameters a second time. `transform_data` looks up a source that is a
reference, and fills the templates of its transforms for each record, also where such a text was the value
of a variable. So for it the resolved parameters must not lead to the environment either.
-/

set_option autoImplicit false

namespace Stepwise

/-- The context in another environment. -/
def Context.inEnvironment (ctx : Context) (environment : Table String) : Context := { ctx with environment }

namespace Context

variable (ctx : Context) (environment : Table String)

/-- A path into anything but the environment leads to the same in every environment. -/
theorem lookup_inEnvironment {path : Path} (elsewhere : path.root ≠ .env) :
    (ctx.inEnvironment environment).lookup path = ctx.lookup path := by
  unfold lookup
  cases root : path.root with
  | env => exact absurd root elsewhere
  | _ => rfl

/-- Two runs that differ in the environment see the same in every namespace but `env`. -/
theorem scope_agrees : (ctx.inEnvironment environment).scope.AgreesExcept .env ctx.scope where
  serves_eq := rfl
  current_eq := rfl
  lookup_eq _ elsewhere := ctx.lookup_inEnvironment environment elsewhere

/-- The same of the scope in which one record is transformed. -/
theorem itemScope_agrees (item : Value) :
    ((ctx.inEnvironment environment).itemScope item).AgreesExcept .env (ctx.itemScope item) where
  serves_eq := rfl
  current_eq := rfl
  lookup_eq path elsewhere := by
    simp only [itemScope, ctx.lookup_inEnvironment environment elsewhere]

end Context

namespace Params

variable {params : Params} {key : String}

/-- A parameter that counts as given is among the fields. -/
theorem get?_eq_some {value : Value} (given : params.get? key = some value) :
    Table.get? params.fields key = some value := by
  unfold Params.get? at given
  split at given
  · cases given
  · cases given
  · rename_i found
    split at given
    · cases given
    · cases given
      exact found
  · rename_i found
    cases given
    exact found

/-- A required parameter that is given stands in the parameters as it is. -/
theorem required_eq_ok {value : Value} (given : params.required key = .ok value) :
    Table.get? params.fields key = some value := by
  unfold required at given
  split at given
  · rename_i found
    cases given
    exact get?_eq_some found
  · cases given

/-- A parameter read as a record stands in the parameters as that record. -/
theorem record?_eq_ok {fields : Fields} (given : params.record? key = .ok (some fields)) :
    Table.get? params.fields key = some (.record fields) := by
  unfold record? at given
  split at given
  · cases given
  · rename_i found
    cases given
    exact get?_eq_some found
  · cases given

end Params

namespace Action

/-- In every environment what is done gives the same answer and leaves the same stores. -/
def IgnoresEnvironment (next : Context → Except ActionError Value × Context) : Prop :=
  ∀ (ctx : Context) (environment : Table String), next (ctx.inEnvironment environment) =
    ((next ctx).1, (next ctx).2.inEnvironment environment)

/-- Checks do not look at the context, so only what follows them matters. -/
theorem checked_ignoresEnvironment {α : Type} {checks : Except ActionError α}
    {next : α → Context → Except ActionError Value × Context}
    (each : ∀ found, checks = .ok found → IgnoresEnvironment (next found)) :
    IgnoresEnvironment (checked checks next) := by
  intro ctx environment
  cases checks with
  | error cause => rfl
  | ok found => exact each found rfl ctx environment

section Stored

variable (fields : Fields)

/-- Writing to the log ignores the environment. -/
theorem log_ignoresEnvironment : IgnoresEnvironment (log fields) := by
  intro ctx environment
  rfl

/-- Setting a variable ignores the environment. -/
theorem setVariable_ignoresEnvironment : IgnoresEnvironment (setVariable fields) :=
  checked_ignoresEnvironment fun _ _ _ _ => rfl

/-- Storing a collection ignores the environment. -/
theorem setCollection_ignoresEnvironment : IgnoresEnvironment (setCollection fields) :=
  checked_ignoresEnvironment fun _ _ _ _ => rfl

/-- Dropping a collection ignores the environment. -/
theorem releaseCollection_ignoresEnvironment : IgnoresEnvironment (releaseCollection fields) :=
  checked_ignoresEnvironment fun _ _ _ _ => rfl

/-- An append depends on the buffers alone. -/
theorem bufferCollection_ignoresEnvironment : IgnoresEnvironment (bufferCollection fields) := by
  apply checked_ignoresEnvironment
  rintro ⟨name, batchSize⟩ - ctx environment
  have buffers_eq : (ctx.inEnvironment environment).buffers = ctx.buffers := rfl
  dsimp only
  rw [buffers_eq]
  rcases ctx.buffers.add name (Params.raw ⟨"buffer_collection", fields⟩ "data") batchSize
    with ⟨refusal | done, buffers⟩
  · rfl
  · rfl

/-- A flush depends on the buffers alone. -/
theorem flushBuffer_ignoresEnvironment : IgnoresEnvironment (flushBuffer fields) := by
  apply checked_ignoresEnvironment
  rintro ⟨name, batchSize⟩ - ctx environment
  have buffers_eq : (ctx.inEnvironment environment).buffers = ctx.buffers := rfl
  dsimp only
  rw [buffers_eq]
  rcases ctx.buffers.drain name batchSize (Params.flagOr ⟨"flush_buffer", fields⟩ "all" false)
    with ⟨refusal | done, buffers⟩
  · rfl
  · rfl

end Stored

/-! ## Actions with a source -/

/-- A value that is taken for a reference into the environment when it names a source. -/
def refersToEnvironment : Value → Bool
  | .text reference =>
    match Path.parse reference.toList with
    | .ok path => decide (path.root = .env)
    | .error _ => false
  | _ => false

/-- A source that does not refer to the environment is the same in every environment. -/
theorem sourceOf_inEnvironment (ctx : Context) (environment : Table String) {source : Value}
    (elsewhere : refersToEnvironment source = false) :
    sourceOf (ctx.inEnvironment environment) source = sourceOf ctx source := by
  cases source with
  | text reference =>
    simp only [sourceOf, Context.reference?]
    simp only [refersToEnvironment] at elsewhere
    cases parsed : Path.parse reference.toList with
    | error _ => rfl
    | ok path =>
      simp only [parsed, decide_eq_false_iff_not] at elsewhere
      simp only [ctx.lookup_inEnvironment environment elsewhere]
  | _ => rfl

/-- A source that refers to the environment is a text. -/
theorem sourceOf_environment (ctx : Context) {source : Value} (refers : refersToEnvironment source = true) :
    ∃ text, sourceOf ctx source = .text text := by
  cases source with
  | text reference =>
    simp only [sourceOf, Context.reference?]
    simp only [refersToEnvironment] at refers
    cases parsed : Path.parse reference.toList with
    | error _ => exact ⟨reference, rfl⟩
    | ok path =>
      simp only [parsed, decide_eq_true_iff] at refers
      simp only [Context.lookup, refers]
      cases found : Context.environmentValue? ctx.environment path.segments with
      | none => exact ⟨reference, rfl⟩
      | some value =>
        unfold Context.environmentValue? at found
        split at found
        · obtain ⟨text, -, rfl⟩ := Option.map_eq_some_iff.mp found
          exact ⟨text, rfl⟩
        · cases found
  | _ => cases refers

/-- So what list a source is, if it is one, is the same in every environment. -/
theorem asList?_sourceOf (ctx : Context) (environment : Table String) (source : Value) :
    (sourceOf (ctx.inEnvironment environment) source).asList? = (sourceOf ctx source).asList? := by
  cases refers : refersToEnvironment source with
  | false => rw [sourceOf_inEnvironment ctx environment refers]
  | true =>
    obtain ⟨text, text_eq⟩ := sourceOf_environment ctx refers
    obtain ⟨other, other_eq⟩ := sourceOf_environment (ctx.inEnvironment environment) refers
    rw [text_eq, other_eq]
    rfl

section Shaping

variable (fields : Fields)

/-- A deduplication depends on the list that its source is. -/
theorem dedupCollection_ignoresEnvironment : IgnoresEnvironment (dedupCollection fields) := by
  apply checked_ignoresEnvironment
  intro source _ ctx environment
  dsimp only
  rw [asList?_sourceOf]
  split
  · rfl
  · rfl

/-- A filter depends on the list that its source is. -/
theorem filterCollection_ignoresEnvironment : IgnoresEnvironment (filterCollection fields) := by
  apply checked_ignoresEnvironment
  intro source _ ctx environment
  dsimp only
  cases refers : refersToEnvironment source with
  | false =>
    rw [sourceOf_inEnvironment ctx environment refers]
    split
    · exact checked_ignoresEnvironment (fun _ _ _ _ => rfl) ctx environment
    · rfl
  | true =>
    obtain ⟨text, text_eq⟩ := sourceOf_environment ctx refers
    obtain ⟨other, other_eq⟩ := sourceOf_environment (ctx.inEnvironment environment) refers
    rw [text_eq, other_eq]

end Shaping

/-! ## Transforms -/

/-- The values of a transform that are resolved for every record. -/
def templatesOf (rule : Value) : List Value :=
  match rule with
  | .text template => [.text template]
  | .record fields =>
    match Table.get? fields "type" with
    | some (.text "concat") => ((Table.get? fields "values").bind Value.asList?).getD []
    | _ => []
  | _ => []

/-- Resolved parameters of a transformation that lead to the environment when they are read again: by a
source that refers there, or by a template that mentions it. -/
def rereadsEnvironment (fields : Fields) : Bool :=
  (Table.get? fields "source").any refersToEnvironment ||
    (((Table.get? fields "transforms").bind Value.asFields?).getD []).any fun rule =>
      (templatesOf rule.2).any (Value.mentions .env)

section Transforms

variable (ctx : Context) (environment : Table String)

/-- A field joined from templates that nowhere mention `env` is the same in every environment. -/
theorem joinedField_inEnvironment (item : Value) {rule : Fields}
    (unmentioned : ∀ template ∈ ((Table.get? rule "values").bind Value.asList?).getD [],
      template.mentions .env = false) :
    joinedField ((ctx.inEnvironment environment).itemScope item) rule =
      joinedField (ctx.itemScope item) rule := by
  have agree := ctx.itemScope_agrees environment item
  have each : ∀ value ∈ ((Table.get? rule "values").bind Value.asList?).getD [],
      (value.resolve ((ctx.inEnvironment environment).itemScope item)).render =
        (value.resolve (ctx.itemScope item)).render := by
    intro value member
    rw [Value.resolve_congr agree value (unmentioned value member)]
  unfold joinedField
  dsimp only
  rw [List.map_congr_left each]

/-- A transform whose templates do not mention the environment gives the same value in every
environment. -/
theorem transformed?_inEnvironment (item record rule : Value)
    (unmentioned : ∀ template ∈ templatesOf rule, template.mentions .env = false) :
    transformed? ((ctx.inEnvironment environment).itemScope item) record rule =
      transformed? (ctx.itemScope item) record rule := by
  unfold transformed?
  split
  · rename_i template
    have here : Template.textMentions .env template = false :=
      unmentioned (.text template) (by simp [templatesOf])
    rw [Template.resolveText_congr (ctx.itemScope_agrees environment item) here]
  · split
    · rfl
    · rename_i concat
      rw [joinedField_inEnvironment]
      intro template member
      apply unmentioned
      simpa [templatesOf, concat] using member
    · rfl
  · rfl

/-- A record transformed by rules that nowhere mention `env` is the same in every environment. -/
theorem transformRecord_inEnvironment (rules : Fields) (record : Value)
    (unmentioned : (rules.any fun rule => (templatesOf rule.2).any (Value.mentions .env)) = false) :
    transformRecord (ctx.inEnvironment environment) rules record = transformRecord ctx rules record := by
  cases record with
  | record fields =>
    simp only [transformRecord]
    congr 1
    apply List.foldl_ext
    intro done rule member
    have here : ∀ template ∈ templatesOf rule.2, template.mentions .env = false := by
      simpa using List.any_eq_false.mp unmentioned rule member
    rw [transformed?_inEnvironment ctx environment _ _ rule.2 here]
  | _ => rfl

end Transforms

/-- A transformation ignores the environment if what it reads again does not lead there. -/
theorem transformData_ignoresEnvironment {fields : Fields} (data : rereadsEnvironment fields = false) :
    IgnoresEnvironment (transformData fields) := by
  obtain ⟨source_data, transforms_data⟩ := Bool.or_eq_false_iff.mp data
  apply checked_ignoresEnvironment
  intro found checks ctx environment
  obtain ⟨source, given, checks⟩ := exists_of_bind_eq_ok checks
  obtain ⟨limit, -, checks⟩ := exists_of_bind_eq_ok checks
  obtain ⟨rules, shaped, pair⟩ := exists_of_bind_eq_ok checks
  cases pair
  have elsewhere : refersToEnvironment source = false := by
    simpa [Params.required_eq_ok given] using source_data
  dsimp only
  rw [sourceOf_inEnvironment ctx environment elsewhere]
  cases rules with
  | none => rfl
  | some rules =>
    have unmentioned :
        (rules.any fun rule => (templatesOf rule.2).any (Value.mentions .env)) = false := by
      simpa [Params.record?_eq_ok shaped, Value.asFields?] using transforms_data
    have same : transformRecord (ctx.inEnvironment environment) rules = transformRecord ctx rules := by
      funext record
      exact transformRecord_inEnvironment ctx environment rules record unmentioned
    dsimp only
    rw [same]

end Action

/-! ## Steps in two environments -/

namespace Registry

/-- The actions that keep to the memory of a run ignore the environment; one of them, if its parameters do
not lead there when they are read again. -/
theorem ignoresEnvironment_of_mem_inMemory {name : String} {action : Action} {fields : Fields}
    (member : (name, action) ∈ inMemory)
    (settled : name = "transform_data" → Action.rereadsEnvironment fields = false) :
    Action.IgnoresEnvironment (action fields) := by
  simp only [inMemory, List.mem_cons, List.not_mem_nil, or_false, Prod.mk.injEq] at member
  rcases member with ⟨-, rfl⟩ | ⟨-, rfl⟩ | ⟨-, rfl⟩ | ⟨-, rfl⟩ | ⟨-, rfl⟩ | ⟨-, rfl⟩ | ⟨-, rfl⟩ | ⟨-, rfl⟩ |
    ⟨name_eq, rfl⟩
  · exact Action.log_ignoresEnvironment fields
  · exact Action.setVariable_ignoresEnvironment fields
  · exact Action.setCollection_ignoresEnvironment fields
  · exact Action.releaseCollection_ignoresEnvironment fields
  · exact Action.bufferCollection_ignoresEnvironment fields
  · exact Action.flushBuffer_ignoresEnvironment fields
  · exact Action.dedupCollection_ignoresEnvironment fields
  · exact Action.filterCollection_ignoresEnvironment fields
  · exact Action.transformData_ignoresEnvironment (settled name_eq)

/-- Parameters that do not mention the environment resolve to the same in two environments, and a standard
action that keeps to the memory of the run does the same with them. -/
theorem dispatch_inEnvironment (services : Services) (ctx : Context) (environment : Table String)
    {name : String} {action : Action} (member : (name, action) ∈ inMemory) (params : Fields)
    (unmentioned : Value.mentionsFields .env params = false)
    (settled : name = "transform_data" → Action.rereadsEnvironment (ctx.resolveFields params) = false) :
    let other := ctx.inEnvironment environment
    let result := (standard services).dispatch name (ctx.resolveFields params) ctx
    other.resolveFields params = ctx.resolveFields params ∧
      (standard services).dispatch name (other.resolveFields params) other =
        (result.1, result.2.inEnvironment environment) := by
  intro other result
  have resolved : other.resolveFields params = ctx.resolveFields params :=
    Value.resolveFields_congr (ctx.scope_agrees environment) params unmentioned
  have found := get?_standard services (List.mem_append_left _ member)
  have dispatched : (standard services).dispatch name = action := by
    funext fields ctx
    simp only [dispatch, found]
  refine ⟨resolved, ?_⟩
  simp only [result, other, resolved, dispatched]
  exact ignoresEnvironment_of_mem_inMemory member settled ctx environment

end Registry

/-- A context with a variable whose text reads like a template that mentions the environment. -/
def Context.secretTrial : Context :=
  { Context.start [("SECRET", "s3cr3t")] [] ⟨0, none, fun _ => .null, fun _ => .error "", (0, 0), [], []⟩ with
    vars := [("x", .text "$\x7benv.SECRET\x7d")] }

/-- The parameters of a transformation that sets one field by a template. -/
def transformTrial (template : String) : Fields :=
  [("source", .list [.record [("a", .count 1)]]), ("transforms", .record [("f", .text template)])]

namespace Registry

/-- A template that only mentions the record gives the same field with and without the environment. -/
theorem dispatch_inEnvironment_trial :
    let ctx := Context.secretTrial
    let params := transformTrial "no. $\x7bitem.a\x7d"
    let result := (standard .none).dispatch "transform_data" (ctx.resolveFields params) ctx
    Value.mentionsFields .env params = false ∧
      Action.rereadsEnvironment (ctx.resolveFields params) = false ∧
      (standard .none).dispatch "transform_data" ((ctx.inEnvironment []).resolveFields params)
        (ctx.inEnvironment []) = (result.1, result.2.inEnvironment []) := by
  intro ctx params result
  have unmentioned : Value.mentionsFields .env params = false := by decide +kernel
  have settled : Action.rereadsEnvironment (ctx.resolveFields params) = false := by decide +kernel
  have member : ("transform_data", Action.transformData) ∈ inMemory := by simp [inMemory]
  exact ⟨unmentioned, settled,
    (dispatch_inEnvironment .none ctx [] member params unmentioned fun _ => settled).2⟩

/-- A template that only mentions the variable gives a field from the environment: the text of the variable
is a template when it is read again. -/
theorem dispatch_rereads_variable :
    let ctx := Context.secretTrial
    let params := transformTrial "$\x7bvars.x\x7d"
    let answer (ctx : Context) :=
      ((standard .none).dispatch "transform_data" (ctx.resolveFields params) ctx).1.toOption.map
        Value.compact
    Value.mentionsFields .env params = false ∧
      answer ctx = some "[\x7b\"a\":1,\"f\":\"s3cr3t\"\x7d]" ∧
      answer (ctx.inEnvironment []) = some "[\x7b\"a\":1,\"f\":\"\"\x7d]" := by
  decide +kernel

end Registry

end Stepwise
