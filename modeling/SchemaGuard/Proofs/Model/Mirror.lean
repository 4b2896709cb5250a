import SchemaGuard.Model.Schema
import SchemaGuard.Proofs.Constraint
import SchemaGuard.Proofs.LeafType
import SchemaGuard.Proofs.Model.Shape

/-! # Models as mirrors of documents

A compiled model has the properties of its document in their order at every depth: a leaf
with the type, the default and the constraints that it declares, and a group with a model of
its own. The JSON schema of the model lists the same properties in the same order, with the
schemas of groups in place.
-/

namespace SchemaGuard

open Outcome

/-- The constraints of a leaf are the declared ones in their order. -/
theorem Property.declarations_of_readConstraints {path : String} {type : LeafType} :
    ∀ {declared : Table Value} {constraints : List Constraint},
      readConstraints path type declared = .ok constraints →
        constraints.map (fun constraint => (constraint.name, constraint.bound)) = declared
  | [], _, hread => by
      rw [readConstraints] at hread
      cases hread
      rfl
  | (name, bound) :: rest, _, hread => by
      rw [readConstraints] at hread
      split at hread
      next => cases hread
      next constraint hconstraint =>
        obtain ⟨others, hothers, hpair⟩ := bind_eq_ok.mp hread
        cases hpair
        rw [List.map_cons, Constraint.declaration_of_read hconstraint,
          declarations_of_readConstraints hothers]

/-! ## Mirrors -/

/-- A JSON schema with a title that lists properties by name and names the required ones. -/
def Value.Lists (schema : Value) (title : String) (required : List String) (listed : Table Value) :
    Prop :=
  ∃ entries, schema = .dict entries ∧ Table.get? entries "title" = some (.str title) ∧
    Table.get? entries "properties" = some (.dict listed) ∧
    Table.get? entries "required" = some (.list (required.map .str))

namespace Property

/-- Whether the input has to have a property: it has to have every group, and a leaf that declares
no default. -/
def isRequired (property : Property) : Bool :=
  property.properties.isSome || property.default.isNone

/-- The names of the properties that the input has to have. -/
def requiredNames (properties : List (String × Property)) : List String :=
  (properties.filter (·.2.isRequired)).map Prod.fst

/-- A leaf with what a property declares. -/
structure LeafMirrors (property : Property) (typeName : String) (leaf : Leaf) : Prop where
  description : leaf.description = property.description
  type : LeafType.Declares (Text.trimString typeName) leaf.type leaf.itemType
  itemType : ∀ item, leaf.itemType = some item ↔
    LeafType.NamesItems (Text.trimString typeName) item
  default : leaf.default = property.default
  required : (Field.leaf leaf).isRequired = property.default.isNone
  constraints : leaf.constraints.map (fun constraint => (constraint.name, constraint.bound)) =
    property.constraints

/-- A field that is a group: it is required, and has nothing of its own but its model. -/
structure GroupMirrors (context : Table Value) (name description : String) (field : Field)
    (model : Model) : Prop where
  group : field = .group model
  required : field.isRequired = true
  default : field.default? = none
  constraints : field.constraints = []
  validator : field.validator? = none
  name : model.name = name
  description : model.header.description = description
  context : model.header.context = context

mutual

/-- A field and a JSON schema that mirror a property under a name. -/
def Mirrors (context : Table Value) (name : String) (field : Field) (schema : Value) :
    Property → Prop
  | ⟨description, some typeName, none, default, constraints, spec, refusesEmpty⟩ =>
      ∃ leaf, field = .leaf leaf ∧ schema = .dict leaf.jsonSchema ∧ LeafMirrors
        ⟨description, some typeName, none, default, constraints, spec, refusesEmpty⟩ typeName leaf
  | ⟨description, none, some nested, _, _, _, _⟩ =>
      ∃ model listed, GroupMirrors context name description field model ∧
        schema.Lists name (requiredNames nested) listed ∧
        MirrorsAll context model.fields listed nested
  | _ => False
termination_by structural property => property

/-- Fields and JSON schemas that mirror properties: one of each for each property in order, under
its name, and no others. -/
def MirrorsAll (context : Table Value) (fields : List (String × Field)) (listed : Table Value) :
    List (String × Property) → Prop
  | [] => fields = [] ∧ listed = []
  | (name, property) :: rest => ∃ field schema fields' listed',
      fields = (name, field) :: fields' ∧ listed = (name, schema) :: listed' ∧
      property.Mirrors context name field schema ∧ MirrorsAll context fields' listed' rest
termination_by structural properties => properties

end

end Property

/-- A model and a JSON schema that mirror a document. -/
structure Document.Mirrors (document : Document) (model : Model) (schema : Value) : Prop where
  name : model.name = document.name
  version : model.header.version = document.version
  description : model.header.description = document.description
  context : model.header.context = document.context
  properties : ∃ listed,
    schema.Lists document.name (Property.requiredNames document.properties) listed ∧
      Property.MirrorsAll document.context model.fields listed document.properties

/-! ## What is compiled is a mirror -/

theorem ModelHeader.jsonSchema_lists (header : ModelHeader) (required : List String)
    (listed : Table Value) :
    Value.Lists (.dict (header.jsonSchema required listed)) header.name required listed := by
  refine ⟨_, rfl, ?_⟩
  unfold jsonSchema
  split <;> split <;> simp [Table.get?]

theorem Model.jsonSchema_lists (model : Model) :
    model.jsonSchema.Lists model.name (SchemaGuard.requiredNames model.fields)
      (fieldSchemas model.fields) := by
  obtain ⟨header, fields⟩ := model
  rw [jsonSchema, schemaTable]
  exact header.jsonSchema_lists _ _

namespace Property

variable {ev : Evaluator} {context : Table Value} {owner name : String}

theorem leafMirrors_of_compileLeaf {property : Property} {typeName : String} {leaf : Leaf}
    (hcompile : compileLeaf ev owner name property typeName = .ok leaf) :
    property.LeafMirrors typeName leaf := by
  obtain ⟨type, itemType, constraints, validator, hdeclared, hconstraints, _, rfl⟩ :=
    compileLeaf_eq_ok.mp hcompile
  have hdeclares := LeafType.declares_of_declared hdeclared
  exact ⟨rfl, hdeclares, hdeclares.itemType_eq_some, rfl, rfl,
    declarations_of_readConstraints hconstraints⟩

/-- A field is required just when its property is. -/
theorem isRequired_of_compile : ∀ {property : Property} {field : Field},
    property.compile ev context owner name = .ok field → field.isRequired = property.isRequired
  | ⟨_, some _, some _, _, _, _, _⟩, _, hcompile => by
      rw [compile] at hcompile
      cases hcompile
  | ⟨_, none, none, _, _, _, _⟩, _, hcompile => by
      rw [compile] at hcompile
      cases hcompile
  | ⟨_, some _, none, _, _, _, _⟩, _, hcompile => by
      obtain ⟨leaf, hleaf, rfl⟩ := compile_leaf_eq_ok.mp hcompile
      exact (leafMirrors_of_compileLeaf hleaf).required
  | ⟨_, none, some _, _, _, _, _⟩, _, hcompile => by
      obtain ⟨_, _, _, _, rfl⟩ := compile_group_eq_ok.mp hcompile
      rfl

theorem requiredNames_of_compileAll :
    ∀ {properties : List (String × Property)} {fields : List (String × Field)},
      compileAll ev context owner properties = .ok fields →
        SchemaGuard.requiredNames fields = requiredNames properties
  | [], _, hcompile => by
      rw [compileAll] at hcompile
      cases hcompile
      rfl
  | (name, property) :: rest, _, hcompile => by
      obtain ⟨field, others, hfield, hothers, rfl⟩ := compileAll_cons_eq_ok.mp hcompile
      have hrequired := isRequired_of_compile hfield
      have hrest := requiredNames_of_compileAll hothers
      unfold SchemaGuard.requiredNames requiredNames at hrest ⊢
      rw [List.filter_cons, List.filter_cons, hrequired]
      split
      · rw [List.map_cons, List.map_cons, hrest]
      · exact hrest

mutual

theorem compile_mirrors : ∀ (property : Property) {owner name : String} {field : Field},
    property.compile ev context owner name = .ok field →
      property.Mirrors context name field (.dict field.schemaTable)
  | ⟨_, some _, some _, _, _, _, _⟩, _, _, _, hcompile => by
      rw [compile] at hcompile
      cases hcompile
  | ⟨_, none, none, _, _, _, _⟩, _, _, _, hcompile => by
      rw [compile] at hcompile
      cases hcompile
  | ⟨_, some typeName, none, _, _, _, _⟩, _, _, _, hcompile => by
      obtain ⟨leaf, hleaf, rfl⟩ := compile_leaf_eq_ok.mp hcompile
      rw [Mirrors, Field.schemaTable]
      exact ⟨leaf, rfl, rfl, leafMirrors_of_compileLeaf hleaf⟩
  | ⟨_, none, some nested, _, _, _, _⟩, _, name, _, hcompile => by
      obtain ⟨fields, validator, hfields, _, rfl⟩ := compile_group_eq_ok.mp hcompile
      rw [Mirrors, Field.schemaTable, ← requiredNames_of_compileAll hfields]
      exact ⟨_, fieldSchemas fields, ⟨rfl, rfl, rfl, rfl, rfl, rfl, rfl, rfl⟩,
        Model.jsonSchema_lists _, compileAll_mirrors nested hfields⟩

theorem compileAll_mirrors : ∀ (properties : List (String × Property)) {owner : String}
    {fields : List (String × Field)}, compileAll ev context owner properties = .ok fields →
      MirrorsAll context fields (fieldSchemas fields) properties
  | [], _, _, hcompile => by
      rw [compileAll] at hcompile
      cases hcompile
      rw [MirrorsAll, fieldSchemas]
      exact ⟨rfl, rfl⟩
  | (name, property) :: rest, _, _, hcompile => by
      obtain ⟨field, others, hfield, hothers, rfl⟩ := compileAll_cons_eq_ok.mp hcompile
      rw [MirrorsAll, fieldSchemas]
      exact ⟨field, _, others, _, rfl, rfl, compile_mirrors property hfield,
        compileAll_mirrors rest hothers⟩

end

end Property

/-- A compiled model and its JSON schema mirror the document at every depth. -/
theorem Document.compile_mirrored {ev : Evaluator} {document : Document} {model : Model}
    (hcompile : document.compile ev = .ok model) : document.Mirrors model model.jsonSchema := by
  obtain ⟨_, fields, validator, hfields, _, rfl⟩ := Document.compile_eq_ok.mp hcompile
  refine ⟨rfl, rfl, rfl, rfl, fieldSchemas fields, ?_, Property.compileAll_mirrors _ hfields⟩
  rw [← Property.requiredNames_of_compileAll hfields]
  exact Model.jsonSchema_lists _

/-- The order document is mirrored: its list has a type for its items, its note has a default and is
the only field that is not required, and its group has the constrained text. -/
theorem orderDocument_mirrored :
    orderDocument.compile defaultEvaluator = .ok orderModel ∧
      orderDocument.Mirrors orderModel orderModel.jsonSchema ∧
      Property.requiredNames orderDocument.properties = ["counts", "buyer"] :=
  ⟨orderDocument_compile, Document.compile_mirrored orderDocument_compile, rfl⟩

end SchemaGuard
