import SchemaGuard.Model

/-! # JSON schemas of models

The description of a model that is handed out with the results of a validation. The models
of groups are written in place.
-/

namespace SchemaGuard

/-- The description of a leaf without its default and its constraints. -/
def Leaf.shape (leaf : Leaf) : Table Value :=
  let items := (leaf.itemType.map (fun item => ("items", Value.dict item.jsonSchema))).toList
  match leaf.type with
  | .scalar type => type.jsonSchema
  | .list => ("type", .str "array") :: items
  | .set => ("type", .str "array") :: ("uniqueItems", .bool true) :: items

/-- A description with the words of an author, if there are any. -/
def withDescription (schema : Table Value) (description : String) : Table Value :=
  if description.isEmpty then schema else Table.insert schema "description" (.str description)

/-- The JSON schema of a leaf. -/
def Leaf.jsonSchema (leaf : Leaf) : Table Value :=
  let described := withDescription leaf.shape leaf.description
  let defaulted := match leaf.default with
    | some value => Table.insert described "default" value
    | none => described
  Table.insertAll defaulted (leaf.constraints.map (·.keyword leaf.type))

/-- The JSON schema of a model, given those of its fields. -/
def ModelHeader.jsonSchema (header : ModelHeader) (required : List String)
    (properties : Table Value) : Table Value :=
  [("title", .str header.name)] ++
  (if header.description.isEmpty then [] else [("description", .str header.description)]) ++
  (if header.version.isEmpty then [] else [("version", .str header.version)]) ++
  [("type", .str "object"), ("properties", .dict properties),
    ("required", .list (required.map .str))]

/-- The names of the fields that the input has to have. -/
def requiredNames (fields : List (String × Field)) : List String :=
  (fields.filter (·.2.isRequired)).map Prod.fst

mutual

/-- The JSON schema of a model as a table. -/
def Model.schemaTable : Model → Table Value
  | ⟨header, fields⟩ => header.jsonSchema (requiredNames fields) (fieldSchemas fields)
termination_by structural model => model

/-- The JSON schema of a field as a table. -/
def Field.schemaTable : Field → Table Value
  | .leaf leaf => leaf.jsonSchema
  | .group model => model.schemaTable
termination_by structural field => field

/-- The JSON schemas of fields by name. -/
def fieldSchemas : List (String × Field) → Table Value
  | [] => []
  | (name, field) :: rest => (name, .dict field.schemaTable) :: fieldSchemas rest
termination_by structural fields => fields

end

/-- The JSON schema of a model. -/
def Model.jsonSchema (model : Model) : Value :=
  .dict model.schemaTable

end SchemaGuard
