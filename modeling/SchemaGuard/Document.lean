import SchemaGuard.Failure
import SchemaGuard.Validator

/-! # Schema documents

A document describes the shape of data: named properties in order, each with a type or with
properties of its own, and validators written as text. A document may be malformed; that is
found when it is compiled.
-/

namespace SchemaGuard

/-- A validator as a document states it: its source alone, or its source and its mode. -/
inductive ValidatorSpec where
  | source (text : String)
  | full (text : String) (mode : Option Mode)
deriving DecidableEq, Repr

namespace ValidatorSpec

/-- The source of a stated validator. -/
def text : ValidatorSpec → String
  | source text => text
  | full text _ => text

/-- The mode of a stated validator, given the mode of one that states none. -/
def mode (default : Mode) : ValidatorSpec → Mode
  | source _ => default
  | full _ mode => mode.getD default

/-- The form in which a document is written. -/
def toValue : ValidatorSpec → Value
  | source text => .str text
  | full text mode =>
      .dict [("source", .str text), ("mode", (mode.map (Value.str ·.name)).getD .null)]

end ValidatorSpec

/-- One named entry of a document, with a type or with properties of its own. A default that is
null is different from no default. -/
structure Property where
  description : String := ""
  typeName : Option String := none
  properties : Option (List (String × Property)) := none
  default : Option Value := none
  constraints : Table Value := []
  validator : Option ValidatorSpec := none
  refusesEmpty : Bool := true

namespace Property

/-- The form in which a document is written, given that of the nested properties. -/
def toValueWith (property : Property) (nested : Option (Table Value)) : Value :=
  .dict (
    [("description", .str property.description)] ++
    (property.typeName.map (fun name => ("type", Value.str name))).toList ++
    (nested.map (fun entries => ("properties", Value.dict entries))).toList ++
    (property.default.map (fun value => ("default", value))).toList ++
    (if property.constraints.isEmpty then [] else [("constraints", .dict property.constraints)]) ++
    (property.validator.map (fun spec => ("validator", spec.toValue))).toList ++
    [("reject_empty", .bool property.refusesEmpty)])

mutual

/-- The form in which a property is written. -/
def toValue : Property → Value
  | ⟨description, typeName, none, default, constraints, validator, refusesEmpty⟩ =>
      toValueWith ⟨description, typeName, none, default, constraints, validator, refusesEmpty⟩
        none
  | ⟨description, typeName, some nested, default, constraints, validator, refusesEmpty⟩ =>
      toValueWith ⟨description, typeName, none, default, constraints, validator, refusesEmpty⟩
        (some (toValues nested))
termination_by structural property => property

/-- The forms in which properties are written. -/
def toValues : List (String × Property) → Table Value
  | [] => []
  | (name, property) :: rest => (name, property.toValue) :: toValues rest
termination_by structural properties => properties

end

/-- A property is a leaf of a type or a group of properties. -/
inductive Kind where
  | leaf (typeName : String)
  | group (properties : List (String × Property))

/-- The property at a path states both a type and properties. -/
def twoKinds (path : String) : Failure :=
  .schema path "a property declares both \"type\" and \"properties\""

/-- The property at a path states neither a type nor properties. -/
def noKind (path : String) : Failure :=
  .schema path "a property must declare either \"type\" or \"properties\""

/-- The kind of the property at a path, which states either a type or properties. -/
def kind (property : Property) (path : String) : Except Failure Kind :=
  match property.typeName, property.properties with
  | some typeName, none => .ok (.leaf typeName)
  | none, some properties => .ok (.group properties)
  | some _, some _ => .error (twoKinds path)
  | none, none => .error (noKind path)

end Property

/-- A named and versioned description of data. -/
structure Document where
  name : String
  version : String
  description : String := ""
  context : Table Value := []
  validator : Option ValidatorSpec := none
  properties : Table Property := []

/-- The form in which a document is written. -/
def Document.toValue (document : Document) : Value :=
  .dict (
    [("name", .str document.name), ("version", .str document.version),
      ("description", .str document.description)] ++
    (if document.context.isEmpty then [] else [("context", .dict document.context)]) ++
    (document.validator.map (fun spec => ("validator", spec.toValue))).toList ++
    [("properties", .dict (Property.toValues document.properties))])

end SchemaGuard
