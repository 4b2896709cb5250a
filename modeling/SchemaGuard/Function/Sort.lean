import SchemaGuard.Value.Equality

/-! # Sorting values

A stable sort under an order that may be undefined for some pairs. Values are compared
only as far as the sort needs to; when it meets a pair without an order it gives up.
-/

namespace SchemaGuard.Value

/-- Inserts a value before the last values of a sorted list that it is less than. The list is given
from its end. -/
def insertBack? (item : Value) : List Value → Option (List Value)
  | [] => some [item]
  | last :: rest =>
      match order? item last with
      | none => none
      | some .lt => (insertBack? item rest).map (last :: ·)
      | some _ => some (item :: last :: rest)

/-- Sorts a list by insertion; `sorted` holds the values so far from the end. -/
def insertAll? : List Value → List Value → Option (List Value)
  | sorted, [] => some sorted.reverse
  | sorted, item :: rest =>
      match insertBack? item sorted with
      | none => none
      | some sorted => insertAll? sorted rest

/-- The values of a list in ascending order, equal ones in the order of the list; `none` if the
sort meets two values that have no order. -/
def sort? (items : List Value) : Option (List Value) :=
  insertAll? [] items

end SchemaGuard.Value
