import SchemaGuard.Calendar
import SchemaGuard.Value

/-! # Kinds of values

The names by which validators ask for the kind of a value. Several names may stand for
one kind, and a date is a text of a certain form.
-/

namespace SchemaGuard.Value

/-- Whether a value is of the kind with a given name; `none` for an unknown name. -/
def hasKind? (value : Value) (name : String) : Option Bool :=
  match name with
  | "any" | "object" => some true
  | "str" | "string" => some (match value with | str _ => true | _ => false)
  | "int" | "integer" => some (match value with | int _ => true | _ => false)
  | "float" => some (match value with | float _ => true | _ => false)
  | "number" => some (match value with | int _ => true | float _ => true | _ => false)
  | "bool" | "boolean" => some (match value with | bool _ => true | _ => false)
  | "list" | "set" | "tuple" => some (match value with | list _ => true | _ => false)
  | "dict" => some (match value with | dict _ => true | _ => false)
  | "None" | "NoneType" => some (match value with | null => true | _ => false)
  | "date" => some (value.str?.any Calendar.isDate)
  | "datetime" => some (value.str?.any Calendar.isDateTime)
  | _ => none

end SchemaGuard.Value
