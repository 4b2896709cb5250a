import SchemaGuard.Function.Registry

/-! # Arguments of functions

The checks that the built-in functions share, with the errors for arguments of the wrong
kind.
-/

namespace SchemaGuard.Function

/-- The outcome of a call. -/
abbrev Result := Except CallError Value

/-- The items of an argument that can be iterated over. -/
def itemsOf (function : String) (value : Value) : Except CallError (List Value) :=
  match value.iterate? with
  | some items => .ok items
  | none => .error (.badArgument function ("'" ++ value.kindName ++ "' object is not iterable"))

/-- The characters of an argument that is a text. -/
def textOf (function : String) (value : Value) : Except CallError (List Char) :=
  match value with
  | .str s => .ok s.toList
  | _ => .error (.badArgument function ("expected str, got " ++ value.kindName))

/-- A text as a value. -/
def ofText (text : List Char) : Value :=
  .str (String.ofList text)

/-- A number as a value, unless it is not finite. -/
def ofFinite : Option Binary64 → Result
  | some x => .ok (.float x)
  | none => .error .overflow

/-- The outcome for a number of arguments that the arity rules out. -/
def miscounted (function : String) (args : List Value) : Result :=
  .error (.wrongCount function "other" args.length)

end SchemaGuard.Function
