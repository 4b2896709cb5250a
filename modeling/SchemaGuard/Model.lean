import SchemaGuard.Constraint
import SchemaGuard.Validator

/-! # Models

A model is the executable form of a document: fields in order, each a typed leaf or a group
with a model of its own. A group is always required, and it has neither constraints nor a
field validator; those of its model take their place.
-/

namespace SchemaGuard

/-- A field with a type, and what else its values have to satisfy. -/
structure Leaf where
  description : String
  type : LeafType
  itemType : Option ScalarType
  default : Option Value
  constraints : List Constraint
  validator : Option Validator

/-- What a model has beside its fields. -/
structure ModelHeader where
  name : String
  version : String
  description : String
  context : Table Value
  validator : Option Validator

mutual

/-- A field of a model. -/
inductive Field where
  | leaf (leaf : Leaf)
  | group (model : Model)

/-- A model: its header and its fields in order. -/
structure Model where
  header : ModelHeader
  fields : List (String × Field)

end

namespace Field

/-- The description of a field; a group is described by its model. -/
def description : Field → String
  | leaf l => l.description
  | group model => model.header.description

/-- The name of the type of a field; a group is named after its model. -/
def typeName : Field → String
  | leaf l => l.type.name
  | group model => model.header.name

/-- The value of a field that the input lacks. -/
def default? : Field → Option Value
  | leaf l => l.default
  | group _ => none

/-- Whether the input has to have a field. -/
def isRequired (field : Field) : Bool :=
  field.default?.isNone

/-- The constraints on a field. -/
def constraints : Field → List Constraint
  | leaf l => l.constraints
  | group _ => []

/-- The type of the items of a field. -/
def itemType? : Field → Option ScalarType
  | leaf l => l.itemType
  | group _ => none

/-- The validator of a field. -/
def validator? : Field → Option Validator
  | leaf l => l.validator
  | group _ => none

/-- The model of a group. -/
def model? : Field → Option Model
  | leaf _ => none
  | group model => some model

end Field

namespace Model

/-- The name of a model. -/
def name (model : Model) : String :=
  model.header.name

/-- The names of the fields in order. -/
def fieldNames (model : Model) : List String :=
  Table.keys model.fields

/-- The field with a name. -/
def field? (model : Model) (name : String) : Option Field :=
  Table.get? model.fields name

/-- The validators of a model itself: those of its fields, and then its own. -/
def validators (model : Model) : List Validator :=
  model.fields.filterMap (·.2.validator?) ++ model.header.validator.toList

end Model

end SchemaGuard
