import Stepwise.Action.Registry
import Stepwise.Store.Deduplication

/-!
# Actions on variables, collections and buffers

Each of them checks its parameters first, then changes the context, and answers with an account of what it
did.
-/

set_option autoImplicit false

namespace Stepwise.Action

/-- The value that a source names: a text that is a path into the context stands for what is there,
anything else for itself. -/
def sourceOf (ctx : Context) (value : Value) : Value :=
  match value with
  | .text reference => (ctx.reference? reference).getD value
  | _ => value

/-- Sets a variable. -/
def setVariable : Action := fun fields =>
  let params : Params := ⟨"set_variable", fields⟩
  checked (params.requiredText "name") fun name ctx =>
    let value := params.raw "value"
    (.ok (.object [("variable", .text name), ("value", value)]),
      { ctx with vars := Table.put ctx.vars name value })

/-- Stores a list as a collection; anything but a list makes it empty. -/
def setCollection : Action := fun fields =>
  let params : Params := ⟨"set_collection", fields⟩
  checked (params.requiredText "name") fun name ctx =>
    let items := (params.raw "data").asList?.getD []
    (.ok (.object [("collection", .text name), ("count", .count items.length)]),
      { ctx with collections := Table.put ctx.collections name items })

/-- Drops a collection. -/
def releaseCollection : Action := fun fields =>
  let params : Params := ⟨"release_collection", fields⟩
  checked (params.requiredText "name") fun name ctx =>
    let items := Table.get? ctx.collections name
    (.ok (.object [("collection", .text name), ("released", .flag items.isSome),
        ("count", .count (items.getD []).length)]),
      { ctx with collections := Table.erase ctx.collections name })

/-- Appends records to a buffer. The context gets the buffers that come back, also with an error. -/
def bufferCollection : Action := fun fields =>
  let params : Params := ⟨"buffer_collection", fields⟩
  let checks := do
    let name ← params.requiredText "buffer_name"
    let batchSize ← params.countOr "batch_size" Buffers.defaultBatchSize
    return (name, batchSize)
  checked checks fun (name, batchSize) ctx =>
    match ctx.buffers.add name (params.raw "data") batchSize with
    | (.error e, buffers) => (.error (.store e), { ctx with buffers })
    | (.ok done, buffers) =>
      (.ok (.object [("buffer", .text name), ("buffered_count", .count done.buffered),
          ("total_count", .count done.total), ("batch_size", .count done.batchSize)]),
        { ctx with buffers })

/-- What a flush of an unknown buffer takes out. -/
def nothingFlushed : Flushed := ⟨[], 0, 0, 0⟩

/-- Takes batches out of a buffer. The context gets the buffers that come back, also with an error. -/
def flushBuffer : Action := fun fields =>
  let params : Params := ⟨"flush_buffer", fields⟩
  let checks := do
    let name ← params.requiredText "buffer_name"
    let batchSize ← params.count? "batch_size"
    return (name, batchSize)
  checked checks fun (name, batchSize) ctx =>
    match ctx.buffers.drain name batchSize (params.flagOr "all" false) with
    | (.error e, buffers) => (.error (.store e), { ctx with buffers })
    | (.ok done, buffers) =>
      let done := done.getD nothingFlushed
      (.ok (.object [("buffer", .text name), ("batch_count", .count done.batches.length),
          ("batches", .list (done.batches.map Value.list)), ("flushed_count", .count done.count),
          ("remaining", .count done.remaining), ("batches_flushed", .count done.batchesFlushed)]),
        { ctx with buffers })

/-- The collection that a reference names as a whole. -/
def collectionName? (source : Value) : Option String :=
  match source with
  | .text reference =>
    ((Text.after? "collections.".toList reference.toList).filter
      fun name => !name.isEmpty && !name.contains '.').map String.ofList
  | _ => none

/-- Keeps the first of the records with one identity, and drops the collection they come from if that
is asked for. -/
def dedupCollection : Action := fun fields =>
  let params : Params := ⟨"dedup_collection", fields⟩
  checked (params.required "source") fun source ctx =>
    let records := (sourceOf ctx source).asList?.getD []
    let answer := Value.list (dedup (params.text? "key") records)
    match params.flagOr "release" false, collectionName? source with
    | true, some name => (.ok answer, { ctx with collections := Table.erase ctx.collections name })
    | _, _ => (.ok answer, ctx)

end Stepwise.Action
