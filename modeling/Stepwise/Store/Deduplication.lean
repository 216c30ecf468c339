import Stepwise.Value.Writer

/-!
# Deduplication

Of several records with one identity the first is kept. The identity of a record is the compact text
of the record, or of one of its fields; all records without that field share an identity of their
own, which no value has, since a text is always written in quotes.
-/

set_option autoImplicit false

namespace Stepwise

/-- The identities met so far, last first, and the field that gives them. To keep digests of the identities
makes no difference as long as no two of them collide. -/
structure Deduplicator where
  key : Option String
  seen : List String
deriving Repr

namespace Deduplicator

/-- The identity of a record that lacks the field. -/
def missing : String := "undefined"

/-- A deduplicator that has met no record. -/
def start (key : Option String) : Deduplicator := ⟨key, []⟩

/-- The identity of a record. -/
def identity (key : Option String) (record : Value) : String :=
  match key with
  | none => record.compact
  | some name =>
    match record.asFields?.bind fun fields => Table.get? fields name with
    | some value => value.compact
    | none => missing

/-- Meets a record, and tells whether its identity is new. -/
def insert (d : Deduplicator) (record : Value) : Bool × Deduplicator :=
  let text := identity d.key record
  if d.seen.contains text then (false, d) else (true, { d with seen := text :: d.seen })

/-- The records whose identity is new, and the deduplicator that has met them all. -/
def keepNew (d : Deduplicator) : List Value → List Value × Deduplicator
  | [] => ([], d)
  | record :: rest =>
    let (isNew, d) := d.insert record
    let (kept, d) := d.keepNew rest
    (if isNew then record :: kept else kept, d)

end Deduplicator

/-- The records of a list whose identity differs from every earlier one. -/
def dedup (key : Option String) (records : List Value) : List Value :=
  ((Deduplicator.start key).keepNew records).1

end Stepwise
