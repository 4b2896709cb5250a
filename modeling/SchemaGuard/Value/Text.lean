import SchemaGuard.Value

/-! # Text of values

The form in which values appear in messages and in which they are converted to text.
Strings inside lists and tables are quoted, and only backslashes and single quotes in
them are escaped; names of tables are quoted as they are.
-/

namespace SchemaGuard.Value

/-- A string in single quotes. -/
def quotedText (s : String) : String :=
  let escaped := s.toList.flatMap (fun c => if c = '\\' ∨ c = '\'' then ['\\', c] else [c])
  "'" ++ String.ofList escaped ++ "'"

/-- An integer beyond the signed 64-bit range is shown as a floating point number. -/
def integerText (i : Int) : String :=
  if Int64Range.holds i then toString i else (Binary64.ofInt i).valueText

mutual

/-- The quoted form of a value. -/
def quoted : Value → String
  | null => "None"
  | bool true => "True"
  | bool false => "False"
  | int i => integerText i
  | float x => x.valueText
  | str s => quotedText s
  | list items => "[" ++ String.intercalate ", " (quotedItems items) ++ "]"
  | dict entries => "\x7b" ++ String.intercalate ", " (quotedEntries entries) ++ "\x7d"

/-- The quoted forms of the elements of a list. -/
def quotedItems : List Value → List String
  | [] => []
  | item :: rest => quoted item :: quotedItems rest

/-- The entries of a table, each name in quotes before its value. -/
def quotedEntries : List (String × Value) → List String
  | [] => []
  | (name, value) :: rest => ("'" ++ name ++ "': " ++ quoted value) :: quotedEntries rest

end

/-- The text of a value: a string as it is, any other value in its quoted form. -/
def display : Value → String
  | str s => s
  | other => quoted other

end SchemaGuard.Value
