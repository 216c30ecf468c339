import Stepwise.Value.Basic
import Stepwise.Text.Numeral

/-!
# Paths into values

A path is a list of segments. A record is entered by field name and a list by position; the last
segment `length` of a path into a list gives the number of its items.
-/

set_option autoImplicit false

namespace Stepwise.Value

/-- The value that a path leads to. -/
def follow? (root : Value) : List String → Option Value
  | [] => some root
  | segment :: rest =>
    match root with
    | .record fields => (Table.get? fields segment).bind fun inner => follow? inner rest
    | .list items =>
      if segment = "length" then
        if rest.isEmpty then some (count items.length) else none
      else
        (Text.count? segment.toList).bind fun position =>
          items[position]?.bind fun inner => follow? inner rest
    | _ => none

/-- The value that a path leads to from a table; the empty path leads nowhere. -/
def followIn? (fields : Fields) : List String → Option Value
  | [] => none
  | name :: rest => (Table.get? fields name).bind fun inner => follow? inner rest

end Stepwise.Value
