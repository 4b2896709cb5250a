import SchemaGuard.Failure
import SchemaGuard.Scalar
import SchemaGuard.Value.Equality

/-! # Leaf types

The type of a field that is no group: a scalar, a list, or a set, which is a list without
repetitions. A declaration may name the scalar type of the items of a list or a set in
brackets.
-/

namespace SchemaGuard

/-- The type of a field that is no group. -/
inductive LeafType where
  | scalar (type : ScalarType)
  | list
  | set
deriving DecidableEq, Repr

namespace LeafType

/-- The type that a name without brackets stands for. -/
def ofName? (name : String) : Option LeafType :=
  match ScalarType.ofName? name, name with
  | some type, _ => some (scalar type)
  | none, "list" => some list
  | none, "set" => some set
  | none, _ => none

/-- The type that a name with blanks around it stands for, or a refusal of the name. -/
def resolve (name : String) : Except Failure LeafType :=
  let name := Text.trimString name
  match ofName? name with
  | some type => .ok type
  | none => .error (.fieldType name)

/-- Whether the values of a type have items. -/
def isCollection : LeafType → Bool
  | scalar _ => false
  | list | set => true

/-- The name of a type. -/
def name : LeafType → String
  | scalar type => type.name
  | list => "list"
  | set => "set"

/-- The value as one of the type. -/
def coerce? : LeafType → Value → Option Value
  | scalar type, value => type.coerce? value
  | list, .list items => some (.list items)
  | set, .list items => some (.list (Value.dedup items))
  | _, _ => none

/-- What is said of a value that is none of the type. -/
def complaint : LeafType → String
  | scalar type => type.complaint
  | list => "Input should be a valid list"
  | set => "Input should be a valid set"

/-- The names of a collection and of its items, if a text is a word followed by a word in
brackets. -/
def bracketed? (text : String) : Option (String × String) :=
  let trimmed := Text.trim text.toList
  let collection := trimmed.takeWhile Unicode.isWord
  match trimmed.dropWhile Unicode.isWord with
  | '[' :: rest =>
      let item := rest.takeWhile Unicode.isWord
      if collection ≠ [] ∧ item ≠ [] ∧ rest.dropWhile Unicode.isWord = [']'] then
        some (String.ofList collection, String.ofList item)
      else
        none
  | _ => none

/-- A declared type, with the type of its items if the declaration names one. -/
def declared (text : String) : Except Failure (LeafType × Option ScalarType) :=
  match bracketed? text with
  | none => do
      let type ← resolve text
      pure (type, none)
  | some (collection, item) =>
      match ofName? collection, ScalarType.ofName? item with
      | some (scalar _), _ | none, _ => .error (.fieldType collection)
      | some _, none => .error (.fieldType item)
      | some type, some itemType => .ok (type, some itemType)

end LeafType

end SchemaGuard
