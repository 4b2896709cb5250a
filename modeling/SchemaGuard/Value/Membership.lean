import SchemaGuard.Text.Search
import SchemaGuard.Value.Equality

/-! # Membership

A text contains its parts, a list the values equal to one of its elements, and a table
the names that it binds.
-/

namespace SchemaGuard.Value

/-- Whether a list holds a value equal to the given one. -/
def memberOf (items : List Value) (item : Value) : Bool :=
  items.any (fun found => equal found item)

/-- Whether a container holds an item; `none` if the question makes no sense. -/
def contains? : Value → Value → Option Bool
  | str text, str part => some (Text.hasInfix part.toList text.toList)
  | list items, item => some (memberOf items item)
  | dict entries, str name => some (Table.contains entries name)
  | _, _ => none

end SchemaGuard.Value
