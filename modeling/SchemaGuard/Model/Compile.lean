import SchemaGuard.Document
import SchemaGuard.Model
import SchemaGuard.Text.Search

/-! # Compilation of documents

A document is compiled to a model with the same fields in the same order, or to the first
failure in that order. A leaf is checked for its kind, its type, its constraints in order
and its validator; the validator of a group or of a whole document comes after its
properties. The check of the items of a collection is a program like any other, run after
the validator that the document states for the collection.
-/

namespace SchemaGuard

/-- The source that checks each item of a collection for being nonempty and of a type. -/
def itemCheck (field : String) (item : ScalarType) : String :=
  "for item in value:\n" ++
  "    if not item:\n" ++
  "        raise ValueError('Items in list cannot be empty')\n" ++
  "    if not isinstance(item, " ++ item.name ++ "):\n" ++
  "        raise ValueError('Items in " ++ field ++ " must be of type " ++ item.name ++ "')"

namespace Property

/-- The sources of the programs that make up the validator of a leaf. -/
def leafSources (name : String) (property : Property) (itemType : Option ScalarType) :
    List String :=
  (property.validator.map (fun spec => String.ofList (Text.dedent spec.text.toList))).toList ++
    (itemType.map (itemCheck name)).toList

/-- The validator of a leaf, if it has a stated validator or a type for its items. -/
def leafValidator (ev : Evaluator) (name : String) (property : Property)
    (itemType : Option ScalarType) : Except Failure (Option Validator) :=
  match leafSources name property itemType with
  | [] => .ok none
  | sources => do
      let mode := (property.validator.map (·.mode .after)).getD .after
      let validator ← (ValidatorRequest.forField name (String.intercalate "\n" sources) mode
        property.refusesEmpty).compile ev
      pure (some validator)

/-- The constraints that are declared for a field of a type. -/
def readConstraints (path : String) (type : LeafType) :
    List (String × Value) → Except Failure (List Constraint)
  | [] => .ok []
  | (name, bound) :: rest =>
      match Constraint.read name bound type with
      | .error fault => .error (.schema path fault.message)
      | .ok constraint => do
          let others ← readConstraints path type rest
          pure (constraint :: others)

/-- Compiles a leaf. -/
def compileLeaf (ev : Evaluator) (owner name : String) (property : Property)
    (typeName : String) : Except Failure Leaf := do
  let (type, itemType) ← LeafType.declared typeName
  let constraints ← readConstraints (owner ++ "." ++ name) type property.constraints
  let validator ← leafValidator ev name property itemType
  pure {
    description := property.description
    type
    itemType
    default := property.default
    constraints
    validator }

/-- The validator of a whole model. -/
def modelValidator (ev : Evaluator) (name : String) :
    Option ValidatorSpec → Except Failure (Option Validator)
  | none => .ok none
  | some spec => do
      let validator ← (ValidatorRequest.forModel name spec.text (spec.mode .before)).compile ev
      pure (some validator)

/-- The name of the validator of a group. -/
def groupValidatorName : String := "validate_model"

/-- The header of the model of a group. -/
def groupHeader (ev : Evaluator) (context : Table Value) (name description : String)
    (validator : Option ValidatorSpec) : Except Failure ModelHeader := do
  let validator ← modelValidator ev groupValidatorName validator
  pure { name, version := "", description, context, validator }

mutual

/-- Compiles a property of an owner, which is the document or the group around it. -/
def compile (ev : Evaluator) (context : Table Value) (owner name : String) :
    Property → Except Failure Field
  | ⟨_, some _, some _, _, _, _, _⟩ => .error (twoKinds (owner ++ "." ++ name))
  | ⟨_, none, none, _, _, _, _⟩ => .error (noKind (owner ++ "." ++ name))
  | ⟨description, some typeName, none, default, constraints, validator, refusesEmpty⟩ => do
      let leaf ← compileLeaf ev owner name
        ⟨description, some typeName, none, default, constraints, validator, refusesEmpty⟩
        typeName
      pure (.leaf leaf)
  | ⟨description, none, some nested, _, _, validator, _⟩ => do
      let fields ← compileAll ev context name nested
      let header ← groupHeader ev context name description validator
      pure (.group ⟨header, fields⟩)
termination_by structural property => property

/-- Compiles the properties of an owner in order. -/
def compileAll (ev : Evaluator) (context : Table Value) (owner : String) :
    List (String × Property) → Except Failure (List (String × Field))
  | [] => .ok []
  | (name, property) :: rest => do
      let field ← property.compile ev context owner name
      let fields ← compileAll ev context owner rest
      pure ((name, field) :: fields)
termination_by structural properties => properties

end

end Property

namespace Document

/-- The name of the validator of a document. -/
def validatorName (document : Document) : String :=
  "validate_" ++ String.ofList (Unicode.lowerText document.name.toList)

/-- Compiles a document, whose name must not be blank. -/
def compile (ev : Evaluator) (document : Document) : Except Failure Model := do
  if Text.isBlankLine document.name.toList then
    throw (.schema "<unnamed>" "schema name must not be empty")
  let fields ← Property.compileAll ev document.context document.name document.properties
  let validator ← Property.modelValidator ev document.validatorName document.validator
  pure {
    header := {
      name := document.name
      version := document.version
      description := document.description
      context := document.context
      validator }
    fields }

end Document

end SchemaGuard
