import Stepwise.Value.Lookup

/-!
# Named collections

Lists of records that steps hand on to each other. A path into a collection starts with its name; its
length, or the position of a record and a path into that record, may follow.
-/

set_option autoImplicit false

namespace Stepwise

/-- Collections by name. -/
abbrev Collections : Type := Table (List Value)

namespace Collections

/-- The number of records in all collections. -/
def totalItems (collections : Collections) : Nat :=
  collections.foldr (fun entry total => entry.2.length + total) 0

/-- The value that a path into the collections leads to. -/
def follow? (collections : Collections) (path : List String) : Option Value :=
  match path with
  | [] => none
  | name :: rest =>
    (Table.get? collections name).bind fun records =>
      match rest with
      | [] => some (.list records)
      | segment :: below =>
        if segment = "length" ∧ below = [] then some (.count records.length)
        else
          (Text.count? segment.toList).bind fun position =>
            records[position]?.bind fun record => record.follow? below

end Collections

end Stepwise
