import SchemaGuard.Model.Compile
import SchemaGuard.Proofs.Outcome

/-! # The validators of a model

All validators in the tree of a model, and the replacement of each of them. Every validator
of a compiled model was compiled from a request that its document states, whatever the
evaluator. Where another evaluator compiles the same requests to other validators, it
compiles the same document to the same model with the validators replaced.
-/

namespace SchemaGuard

open Outcome

mutual

/-- The validators of a model and of the models of its groups. -/
def Model.allValidators : Model → List Validator
  | ⟨header, fields⟩ => Field.validatorsOfAll fields ++ header.validator.toList
termination_by structural model => model

/-- The validators of a field. -/
def Field.allValidators : Field → List Validator
  | .leaf leaf => leaf.validator.toList
  | .group model => model.allValidators
termination_by structural field => field

/-- The validators of fields in order. -/
def Field.validatorsOfAll : List (String × Field) → List Validator
  | [] => []
  | (_, field) :: rest => field.allValidators ++ Field.validatorsOfAll rest
termination_by structural fields => fields

end

/-- The header with its validator replaced. -/
def ModelHeader.mapValidators (replace : Validator → Validator) (header : ModelHeader) :
    ModelHeader :=
  { header with validator := header.validator.map replace }

/-- The leaf with its validator replaced. -/
def Leaf.mapValidators (replace : Validator → Validator) (leaf : Leaf) : Leaf :=
  { leaf with validator := leaf.validator.map replace }

mutual

/-- The model with every validator in its tree replaced, and nothing else. -/
def Model.mapValidators (replace : Validator → Validator) : Model → Model
  | ⟨header, fields⟩ => ⟨header.mapValidators replace, Field.mapValidatorsOfAll replace fields⟩
termination_by structural model => model

/-- The field with its validators replaced. -/
def Field.mapValidators (replace : Validator → Validator) : Field → Field
  | .leaf leaf => .leaf (leaf.mapValidators replace)
  | .group model => .group (model.mapValidators replace)
termination_by structural field => field

/-- The fields with their validators replaced. -/
def Field.mapValidatorsOfAll (replace : Validator → Validator) :
    List (String × Field) → List (String × Field)
  | [] => []
  | (name, field) :: rest =>
      (name, field.mapValidators replace) :: Field.mapValidatorsOfAll replace rest
termination_by structural fields => fields

end

/-! ## Requests -/

namespace ValidatorRequest

/-- Compiles a request if there is one. -/
def compileOption (ev : Evaluator) : Option ValidatorRequest → Except Failure (Option Validator)
  | none => .ok none
  | some request => (request.compile ev).map some

variable {ev ev' : Evaluator} {request : Option ValidatorRequest} {validator : Option Validator}

theorem compiled_of_compileOption (hcompile : compileOption ev request = .ok validator) :
    ∀ v ∈ validator.toList, ∃ r : ValidatorRequest, r.compile ev = .ok v := by
  cases request with
  | none =>
      cases hcompile
      simp
  | some request =>
      obtain ⟨v, hv, rfl⟩ := map_eq_ok.mp hcompile
      simpa using ⟨request, hv⟩

theorem compileOption_map {replace : Validator → Validator}
    (hreplace : ∀ (r : ValidatorRequest) v, r.compile ev = .ok v → r.compile ev' = .ok (replace v))
    (hcompile : compileOption ev request = .ok validator) :
    compileOption ev' request = .ok (validator.map replace) := by
  cases request with
  | none =>
      cases hcompile
      rfl
  | some request =>
      obtain ⟨v, hv, rfl⟩ := map_eq_ok.mp hcompile
      exact map_eq_ok.mpr ⟨replace v, hreplace request v hv, rfl⟩

end ValidatorRequest

namespace Property

/-- The request for the validator of a leaf. -/
def leafRequest? (name : String) (property : Property) (itemType : Option ScalarType) :
    Option ValidatorRequest :=
  match leafSources name property itemType with
  | [] => none
  | sources =>
      some (.forField name (String.intercalate "\n" sources)
        ((property.validator.map (·.mode .after)).getD .after) property.refusesEmpty)

/-- The request for the validator of a whole model. -/
def modelRequest? (name : String) (spec : Option ValidatorSpec) : Option ValidatorRequest :=
  spec.map (fun spec => .forModel name spec.text (spec.mode .before))

theorem leafValidator_eq (ev : Evaluator) (name : String) (property : Property)
    (itemType : Option ScalarType) :
    leafValidator ev name property itemType =
      ValidatorRequest.compileOption ev (leafRequest? name property itemType) := by
  unfold leafValidator leafRequest?
  cases leafSources name property itemType with
  | nil => rfl
  | cons source sources => rfl

theorem modelValidator_eq (ev : Evaluator) (name : String) (spec : Option ValidatorSpec) :
    modelValidator ev name spec =
      ValidatorRequest.compileOption ev (modelRequest? name spec) := by
  cases spec <;> rfl

/-- What the compilation of a leaf gives when it succeeds. -/
theorem compileLeaf_eq_ok {ev : Evaluator} {owner name typeName : String} {property : Property}
    {leaf : Leaf} : compileLeaf ev owner name property typeName = .ok leaf ↔
      ∃ type itemType constraints validator, LeafType.declared typeName = .ok (type, itemType) ∧
        readConstraints (owner ++ "." ++ name) type property.constraints = .ok constraints ∧
        leafValidator ev name property itemType = .ok validator ∧
        leaf =
          ⟨property.description, type, itemType, property.default, constraints, validator⟩ := by
  unfold compileLeaf
  simp only [bind_eq_ok, pure_eq_ok, Except.ok.injEq, Prod.exists]
  constructor
  · rintro ⟨type, itemType, hdeclared, constraints, hconstraints, validator, hvalidator, rfl⟩
    exact ⟨type, itemType, constraints, validator, hdeclared, hconstraints, hvalidator, rfl⟩
  · rintro ⟨type, itemType, constraints, validator, hdeclared, hconstraints, hvalidator, rfl⟩
    exact ⟨type, itemType, hdeclared, constraints, hconstraints, validator, hvalidator, rfl⟩

theorem groupHeader_eq_ok {ev : Evaluator} {context : Table Value} {name description : String}
    {spec : Option ValidatorSpec} {header : ModelHeader} :
    groupHeader ev context name description spec = .ok header ↔
      ∃ validator, modelValidator ev groupValidatorName spec = .ok validator ∧
        header = ⟨name, "", description, context, validator⟩ := by
  unfold groupHeader
  simp only [bind_eq_ok, pure_eq_ok, Except.ok.injEq]
  constructor
  · rintro ⟨validator, hvalidator, rfl⟩
    exact ⟨validator, hvalidator, rfl⟩
  · rintro ⟨validator, hvalidator, rfl⟩
    exact ⟨validator, hvalidator, rfl⟩

section Compile

variable {ev : Evaluator} {context : Table Value} {owner name description : String}
  {default : Option Value} {constraints : Table Value} {spec : Option ValidatorSpec}
  {refusesEmpty : Bool}

/-- A property with a type compiles to a leaf. -/
theorem compile_leaf_eq_ok {typeName : String} {field : Field} :
    compile ev context owner name
        ⟨description, some typeName, none, default, constraints, spec, refusesEmpty⟩ = .ok field ↔
      ∃ leaf, compileLeaf ev owner name
          ⟨description, some typeName, none, default, constraints, spec, refusesEmpty⟩ typeName =
          .ok leaf ∧ field = .leaf leaf := by
  rw [compile, bind_eq_ok]
  simp only [pure_eq_ok, Except.ok.injEq, eq_comm]

/-- A property with properties of its own compiles to a group. -/
theorem compile_group_eq_ok {nested : List (String × Property)} {field : Field} :
    compile ev context owner name
        ⟨description, none, some nested, default, constraints, spec, refusesEmpty⟩ = .ok field ↔
      ∃ fields validator, compileAll ev context name nested = .ok fields ∧
        modelValidator ev groupValidatorName spec = .ok validator ∧
        field = .group ⟨⟨name, "", description, context, validator⟩, fields⟩ := by
  rw [compile]
  simp only [bind_eq_ok, groupHeader_eq_ok, pure_eq_ok, Except.ok.injEq]
  constructor
  · rintro ⟨fields, hfields, _, ⟨validator, hvalidator, rfl⟩, rfl⟩
    exact ⟨fields, validator, hfields, hvalidator, rfl⟩
  · rintro ⟨fields, validator, hfields, hvalidator, rfl⟩
    exact ⟨fields, hfields, _, ⟨validator, hvalidator, rfl⟩, rfl⟩

theorem compileAll_cons_eq_ok {property : Property} {rest : List (String × Property)}
    {fields : List (String × Field)} :
    compileAll ev context owner ((name, property) :: rest) = .ok fields ↔
      ∃ field others, property.compile ev context owner name = .ok field ∧
        compileAll ev context owner rest = .ok others ∧ fields = (name, field) :: others := by
  rw [compileAll]
  simp only [bind_eq_ok, pure_eq_ok, Except.ok.injEq]
  constructor
  · rintro ⟨field, hfield, others, hothers, rfl⟩
    exact ⟨field, others, hfield, hothers, rfl⟩
  · rintro ⟨field, others, hfield, hothers, rfl⟩
    exact ⟨field, hfield, others, hothers, rfl⟩

end Compile

end Property

/-- What the compilation of a document gives when it succeeds. -/
theorem Document.compile_eq_ok {ev : Evaluator} {document : Document} {model : Model} :
    document.compile ev = .ok model ↔
      Text.isBlankLine document.name.toList = false ∧
      ∃ fields validator,
        Property.compileAll ev document.context document.name document.properties = .ok fields ∧
        Property.modelValidator ev document.validatorName document.validator = .ok validator ∧
        model = ⟨⟨document.name, document.version, document.description, document.context,
          validator⟩, fields⟩ := by
  unfold Document.compile
  cases hname : Text.isBlankLine document.name.toList with
  | true => simp [throw, throwThe, MonadExceptOf.throw]
  | false =>
      simp only [Bool.false_eq_true, if_false, pure_eq_ok, bind_eq_ok, Except.ok.injEq,
        true_and]
      constructor
      · rintro ⟨fields, hfields, validator, hvalidator, rfl⟩
        exact ⟨fields, validator, hfields, hvalidator, rfl⟩
      · rintro ⟨fields, validator, hfields, hvalidator, rfl⟩
        exact ⟨fields, hfields, validator, hvalidator, rfl⟩

namespace Property

/-! ## Compiled validators -/

theorem compileLeaf_compiled {ev : Evaluator} {owner name typeName : String} {property : Property}
    {leaf : Leaf} (hcompile : compileLeaf ev owner name property typeName = .ok leaf) :
    ∀ v ∈ leaf.validator.toList, ∃ request : ValidatorRequest, request.compile ev = .ok v := by
  obtain ⟨_, _, _, validator, _, _, hvalidator, rfl⟩ := compileLeaf_eq_ok.mp hcompile
  rw [leafValidator_eq] at hvalidator
  exact ValidatorRequest.compiled_of_compileOption hvalidator

theorem modelValidator_compiled {ev : Evaluator} {name : String} {spec : Option ValidatorSpec}
    {validator : Option Validator} (hcompile : modelValidator ev name spec = .ok validator) :
    ∀ v ∈ validator.toList, ∃ request : ValidatorRequest, request.compile ev = .ok v := by
  rw [modelValidator_eq] at hcompile
  exact ValidatorRequest.compiled_of_compileOption hcompile

variable (ev : Evaluator) (context : Table Value)

mutual

theorem compile_compiled : ∀ (property : Property) (owner name : String) {field : Field},
    property.compile ev context owner name = .ok field →
      ∀ v ∈ field.allValidators, ∃ request : ValidatorRequest, request.compile ev = .ok v
  | ⟨_, some _, some _, _, _, _, _⟩, _, _, _, hcompile => by
      rw [compile] at hcompile
      cases hcompile
  | ⟨_, none, none, _, _, _, _⟩, _, _, _, hcompile => by
      rw [compile] at hcompile
      cases hcompile
  | ⟨_, some _, none, _, _, _, _⟩, _, _, _, hcompile => by
      obtain ⟨leaf, hleaf, rfl⟩ := compile_leaf_eq_ok.mp hcompile
      rw [Field.allValidators]
      exact compileLeaf_compiled hleaf
  | ⟨_, none, some nested, _, _, _, _⟩, _, name, _, hcompile => by
      obtain ⟨fields, validator, hfields, hvalidator, rfl⟩ := compile_group_eq_ok.mp hcompile
      rw [Field.allValidators, Model.allValidators, List.forall_mem_append]
      exact ⟨compileAll_compiled nested name hfields, modelValidator_compiled hvalidator⟩
termination_by structural property => property

theorem compileAll_compiled : ∀ (properties : List (String × Property)) (owner : String)
    {fields : List (String × Field)}, compileAll ev context owner properties = .ok fields →
      ∀ v ∈ Field.validatorsOfAll fields, ∃ request : ValidatorRequest, request.compile ev = .ok v
  | [], _, _, hcompile => by
      rw [compileAll] at hcompile
      cases hcompile
      simp [Field.validatorsOfAll]
  | (name, property) :: rest, owner, _, hcompile => by
      obtain ⟨field, fields, hfield, hrest, rfl⟩ := compileAll_cons_eq_ok.mp hcompile
      rw [Field.validatorsOfAll, List.forall_mem_append]
      exact ⟨compile_compiled property owner name hfield, compileAll_compiled rest owner hrest⟩
termination_by structural properties => properties

end

end Property

/-- Every validator of a compiled model was compiled by the evaluator of the document. -/
theorem Document.compile_compiled {ev : Evaluator} {document : Document} {model : Model}
    (hcompile : document.compile ev = .ok model) :
    ∀ v ∈ model.allValidators, ∃ request : ValidatorRequest, request.compile ev = .ok v := by
  obtain ⟨_, fields, validator, hfields, hvalidator, rfl⟩ := Document.compile_eq_ok.mp hcompile
  rw [Model.allValidators, List.forall_mem_append]
  exact ⟨Property.compileAll_compiled ev _ _ _ hfields,
    Property.modelValidator_compiled hvalidator⟩

/-! ## Compilation by another evaluator -/

namespace Property

variable {ev ev' : Evaluator} {replace : Validator → Validator}

/-- Another evaluator compiles the same requests to the replaced validators. -/
def Replaces (ev ev' : Evaluator) (replace : Validator → Validator) : Prop :=
  ∀ (request : ValidatorRequest) validator, request.compile ev = .ok validator →
    request.compile ev' = .ok (replace validator)

theorem compileLeaf_mapValidators (hreplace : Replaces ev ev' replace)
    {owner name typeName : String} {property : Property} {leaf : Leaf}
    (hcompile : compileLeaf ev owner name property typeName = .ok leaf) :
    compileLeaf ev' owner name property typeName = .ok (leaf.mapValidators replace) := by
  obtain ⟨type, itemType, constraints, validator, hdeclared, hconstraints, hvalidator, rfl⟩ :=
    compileLeaf_eq_ok.mp hcompile
  rw [leafValidator_eq] at hvalidator
  have hreplaced := ValidatorRequest.compileOption_map hreplace hvalidator
  rw [← leafValidator_eq] at hreplaced
  exact compileLeaf_eq_ok.mpr
    ⟨type, itemType, constraints, _, hdeclared, hconstraints, hreplaced, rfl⟩

theorem modelValidator_mapValidators (hreplace : Replaces ev ev' replace) {name : String}
    {spec : Option ValidatorSpec} {validator : Option Validator}
    (hcompile : modelValidator ev name spec = .ok validator) :
    modelValidator ev' name spec = .ok (validator.map replace) := by
  rw [modelValidator_eq] at hcompile ⊢
  exact ValidatorRequest.compileOption_map hreplace hcompile

variable (context : Table Value)

mutual

theorem compile_mapValidators (hreplace : Replaces ev ev' replace) :
    ∀ (property : Property) (owner name : String) {field : Field},
    property.compile ev context owner name = .ok field →
      property.compile ev' context owner name = .ok (field.mapValidators replace)
  | ⟨_, some _, some _, _, _, _, _⟩, _, _, _, hcompile => by
      rw [compile] at hcompile
      cases hcompile
  | ⟨_, none, none, _, _, _, _⟩, _, _, _, hcompile => by
      rw [compile] at hcompile
      cases hcompile
  | ⟨_, some _, none, _, _, _, _⟩, _, _, _, hcompile => by
      obtain ⟨leaf, hleaf, rfl⟩ := compile_leaf_eq_ok.mp hcompile
      rw [Field.mapValidators]
      exact compile_leaf_eq_ok.mpr ⟨_, compileLeaf_mapValidators hreplace hleaf, rfl⟩
  | ⟨_, none, some nested, _, _, _, _⟩, _, name, _, hcompile => by
      obtain ⟨fields, validator, hfields, hvalidator, rfl⟩ := compile_group_eq_ok.mp hcompile
      rw [Field.mapValidators, Model.mapValidators]
      exact compile_group_eq_ok.mpr ⟨_, _, compileAll_mapValidators hreplace nested name hfields,
        modelValidator_mapValidators hreplace hvalidator, rfl⟩
termination_by structural property => property

theorem compileAll_mapValidators (hreplace : Replaces ev ev' replace) :
    ∀ (properties : List (String × Property)) (owner : String) {fields : List (String × Field)},
    compileAll ev context owner properties = .ok fields →
      compileAll ev' context owner properties = .ok (Field.mapValidatorsOfAll replace fields)
  | [], _, _, hcompile => by
      rw [compileAll] at hcompile ⊢
      cases hcompile
      rw [Field.mapValidatorsOfAll]
  | (name, property) :: rest, owner, _, hcompile => by
      obtain ⟨field, fields, hfield, hrest, rfl⟩ := compileAll_cons_eq_ok.mp hcompile
      rw [Field.mapValidatorsOfAll]
      exact compileAll_cons_eq_ok.mpr ⟨_, _,
        compile_mapValidators hreplace property owner name hfield,
        compileAll_mapValidators hreplace rest owner hrest, rfl⟩
termination_by structural properties => properties

end

end Property

/-- A document that one evaluator compiles is compiled by another to the model with its validators
replaced. -/
theorem Document.compile_mapValidators {ev ev' : Evaluator} {replace : Validator → Validator}
    (hreplace : Property.Replaces ev ev' replace) {document : Document} {model : Model}
    (hcompile : document.compile ev = .ok model) :
    document.compile ev' = .ok (model.mapValidators replace) := by
  obtain ⟨hname, fields, validator, hfields, hvalidator, rfl⟩ :=
    Document.compile_eq_ok.mp hcompile
  rw [Model.mapValidators]
  exact Document.compile_eq_ok.mpr ⟨hname, _, _,
    Property.compileAll_mapValidators _ hreplace _ _ hfields,
    Property.modelValidator_mapValidators hreplace hvalidator, rfl⟩

end SchemaGuard
