import SchemaGuard.Catalog
import SchemaGuard.Proofs.Coercion
import SchemaGuard.Proofs.Model.Collections
import SchemaGuard.Proofs.Model.Declarations
import SchemaGuard.Proofs.Model.Independence

/-! # The shape of instances

When the validators that a document states all precede coercion, nothing that it states comes
after the types and the constraints. So an instance has the declared shape at every depth: its
fields are the declared ones in their order, and each holds its declared default or a value
that its type and its constraints admit.
-/

namespace SchemaGuard

open Outcome

/-! ## Shapes -/

namespace Property

/-- What the validator that a group or a document states makes of an input before the properties are
judged. -/
def Rewrites (ev : Evaluator) (context : Table Value) (name : String) (given : Value)
    (entries : Table Value) : Option ValidatorSpec → Prop
  | none => given = .dict entries
  | some spec => ∃ validator,
      (ValidatorRequest.forModel name spec.text (spec.mode .before)).compile ev = .ok validator ∧
        validator.callModel given context = .ok (.dict entries)

/-- A value that a leaf may hold: its default where the input lacks the leaf, and otherwise a value
that its type and its constraints admit. -/
def LeafShape (typeName : String) (default : Option Value) (constraints : Table Value)
    (value : Value) : Option Value → Prop
  | none => default = some value
  | some _ => ∃ type itemType,
      LeafType.declared typeName = .ok (type, itemType) ∧ type.Admits constraints value

mutual

/-- A value that a property may hold, given what the input holds in its place. -/
def Shape (ev : Evaluator) (context : Table Value) (given : Option Value) (value : Value) :
    Property → Prop
  | ⟨_, some typeName, none, default, constraints, _, _⟩ =>
      LeafShape typeName default constraints value given
  | ⟨_, none, some nested, _, _, spec, _⟩ => ∃ raw entries values, given = some raw ∧
      Rewrites ev context groupValidatorName raw entries spec ∧ value = .dict values ∧
      ShapeAll ev context entries values nested
  | _ => False
termination_by structural property => property

/-- Values that properties may hold, given the entries of the input: one for each property in order,
and no others. -/
def ShapeAll (ev : Evaluator) (context : Table Value) (entries : Table Value)
    (values : Table Value) : List (String × Property) → Prop
  | [] => values = []
  | (name, property) :: rest => ∃ value others, values = (name, value) :: others ∧
      property.Shape ev context (Table.get? entries name) value ∧
      ShapeAll ev context entries others rest
termination_by structural properties => properties

end

end Property

/-- Values that the properties of a document may hold, given its input. -/
def Document.Shape (ev : Evaluator) (document : Document) (given : Value) (values : Table Value) :
    Prop :=
  ∃ entries, Property.Rewrites ev document.context document.validatorName given entries
      document.validator ∧
    Property.ShapeAll ev document.context entries values document.properties

/-! ## Validators that precede coercion -/

namespace Property

/-- The mode of the validator that a property states. -/
def statedMode? (property : Property) : Option Mode :=
  property.validator.map (·.mode (if property.properties.isSome then .before else .after))

/-- A property whose stated validator precedes coercion. The check of its items, which follows
coercion where no validator is stated, leaves its value alone. -/
structure Early (ev : Evaluator) (name : String) (property : Property) : Prop where
  mode : ∀ mode, property.statedMode? = some mode → mode.precedesCoercion = true
  check : property.validator = none → ∀ item, property.DeclaresItems item →
    ItemCheck.KeepsValue ev name item

variable {ev : Evaluator} {context : Table Value}

/-- The check of the items of a property that is named by an identifier leaves its value alone. -/
theorem early_of_isName {name : String} (hname : Lexer.isName name.toList = true)
    {property : Property}
    (hmode : ∀ mode, property.statedMode? = some mode → mode.precedesCoercion = true) :
    property.Early ev name where
  mode := hmode
  check _ item _ := ItemCheck.keepsValue_of_quotes (Lexer.quotes_of_isName hname) item

theorem Early.keepsCoerced {property : Property} {owner name typeName : String} {leaf : Leaf}
    (hearly : property.Early ev name) (htype : property.typeName = some typeName)
    (hleaf : property.properties = none)
    (hcompile : compileLeaf ev owner name property typeName = .ok leaf) : leaf.KeepsCoerced := by
  obtain ⟨type, itemType, _, validator, hdeclared, _, hvalidator, rfl⟩ :=
    compileLeaf_eq_ok.mp hcompile
  intro v hv
  cases hspec : property.validator with
  | some spec =>
      left
      rw [leafValidator_mode hspec hvalidator v hv]
      exact hearly.mode _ (by rw [statedMode?, hspec, hleaf]; rfl)
  | none =>
      right
      obtain ⟨item, body, opening, rfl, hbody, hprogram, _, hopening, _⟩ :=
        leafValidator_unstated hspec hvalidator v hv
      have hkeeps := hearly.check hspec item ⟨typeName, type, htype, hdeclared⟩ body hbody
      rw [hprogram, Program.binds_append, not_or]
      exact ⟨hopening "value", hkeeps⟩

/-- The value of a leaf that is accepted has the shape of the leaf. -/
theorem Early.leafShape {property : Property} {owner name typeName : String} {leaf : Leaf}
    (hearly : property.Early ev name) (htype : property.typeName = some typeName)
    (hleaf : property.properties = none)
    (hcompile : compileLeaf ev owner name property typeName = .ok leaf) {data : Value}
    {entries : Table Value} {value : Value}
    (haccepted : (Field.leaf leaf).judgeIn context data entries name = .ok (.accepted value)) :
    LeafShape typeName property.default property.constraints value (Table.get? entries name) := by
  have hkeeps := hearly.keepsCoerced htype hleaf hcompile
  obtain ⟨type, itemType, constraints, validator, hdeclared, hconstraints, _, rfl⟩ :=
    compileLeaf_eq_ok.mp hcompile
  obtain ⟨hnone, hdefault⟩ | ⟨given, hgiven, hjudge⟩ := Field.judgeIn_leaf_accepted.mp haccepted
  · rw [hnone]
    exact hdefault
  · obtain ⟨replaced, coerced, _, hconform, hlate⟩ := Leaf.judge_accepted.mp hjudge
    obtain rfl := Leaf.consult_keeps hkeeps hlate
    obtain ⟨hcoerce, hholds⟩ := Leaf.conform_accepted.mp hconform
    rw [hgiven]
    exact ⟨type, itemType, hdeclared, LeafType.coerced_again hcoerce,
      (readConstraints_holds hconstraints value).mp hholds⟩

/-- A stated validator of a model that precedes coercion, or none. -/
def EarlySpec (spec : Option ValidatorSpec) : Prop :=
  ∀ stated, spec = some stated → (stated.mode .before).precedesCoercion = true

theorem validatorAt_of_early {name : String} {spec : Option ValidatorSpec}
    (hearly : EarlySpec spec) {header : ModelHeader}
    (hvalidator : modelValidator ev name spec = .ok header.validator) :
    header.validatorAt false = none ∧ header.validatorAt true = header.validator := by
  rw [modelValidator_eq] at hvalidator
  cases spec with
  | none =>
      have hnone : header.validator = none := (Except.ok.inj hvalidator).symm
      rw [hnone]
      exact ⟨ModelHeader.validatorAt_of_none hnone false,
        ModelHeader.validatorAt_of_none hnone true⟩
  | some stated =>
      obtain ⟨validator, hcompiled, hsome⟩ := map_eq_ok.mp hvalidator
      obtain ⟨program, _, rfl⟩ := ValidatorRequest.compile_eq_ok.mp hcompiled
      have hmode : (stated.mode .before).precedesCoercion = true := hearly stated rfl
      rw [ModelHeader.validatorAt_of_some hsome.symm, ModelHeader.validatorAt_of_some hsome.symm,
        ← hsome]
      exact ⟨if_neg fun hlate => Bool.false_ne_true (hlate.symm.trans hmode), if_pos hmode⟩

/-- The entries that are judged are those that the stated validator has made of the input. -/
theorem rewrites_of_prepare {name : String} {spec : Option ValidatorSpec}
    (hearly : EarlySpec spec) {header : ModelHeader}
    (hvalidator : modelValidator ev name spec = .ok header.validator)
    {tag : String} {given : Value} {entries : Table Value}
    (hprepare : header.prepare tag given = .ok (.dict entries, .opening)) :
    Rewrites ev header.context name given entries spec := by
  rw [ModelHeader.prepare_eq_ok, (validatorAt_of_early hearly hvalidator).2] at hprepare
  rw [modelValidator_eq] at hvalidator
  cases spec with
  | none =>
      rw [← Except.ok.inj hvalidator] at hprepare
      exact hprepare
  | some stated =>
      obtain ⟨validator, hcompiled, hsome⟩ := map_eq_ok.mp hvalidator
      rw [← hsome] at hprepare
      exact ⟨validator, hcompiled, hprepare⟩

/-! ## Shapes at every depth -/

/-- A pass without reports has judged what the stated validator has made of the input. -/
theorem exists_shapeAll_of_pass {name : String} {spec : Option ValidatorSpec}
    (hearly : EarlySpec spec) {header : ModelHeader}
    (hvalidator : modelValidator ev name spec = .ok header.validator)
    {properties : List (String × Property)} {fields : List (String × Field)}
    (hnames : (Table.keys properties).Nodup) (hkeys : Table.keys fields = Table.keys properties)
    (hshape : ∀ {data : Value} {entries values : Table Value},
      AcceptsAll header.context data entries fields values →
        ShapeAll ev header.context entries values properties)
    {tag : String} {given : Value} {values : Table Value}
    (hpass : Model.pass tag given ⟨header, fields⟩ = .ok ⟨.empty, values⟩) :
    ∃ entries, Rewrites ev header.context name given entries spec ∧
      ShapeAll ev header.context entries values properties := by
  have hlate : header.validatorAt false = none := (validatorAt_of_early hearly hvalidator).1
  obtain ⟨entries, hprepare, haccepts⟩ := (Model.pass_eq_valid hlate (hkeys ▸ hnames)).mp hpass
  exact ⟨entries, rewrites_of_prepare hearly hvalidator hprepare, hshape haccepts⟩

mutual

theorem shape_of_accepted : ∀ (property : Property) {owner name : String} {field : Field}
    {data : Value} {entries : Table Value} {value : Value},
    (∀ table ∈ property.tables, (Table.keys table).Nodup ∧
      ∀ entry ∈ table, entry.2.Early ev entry.1) →
    property.Early ev name → property.compile ev context owner name = .ok field →
    field.judgeIn context data entries name = .ok (.accepted value) →
      property.Shape ev context (Table.get? entries name) value
  | ⟨_, some _, some _, _, _, _, _⟩, _, _, _, _, _, _, _, _, hcompile, _ => by
      rw [compile] at hcompile
      cases hcompile
  | ⟨_, none, none, _, _, _, _⟩, _, _, _, _, _, _, _, _, hcompile, _ => by
      rw [compile] at hcompile
      cases hcompile
  | ⟨_, some _, none, _, _, _, _⟩, _, _, _, _, _, _, _, hearly, hcompile, haccepted => by
      obtain ⟨leaf, hleaf, rfl⟩ := compile_leaf_eq_ok.mp hcompile
      rw [Shape]
      exact hearly.leafShape rfl rfl hleaf haccepted
  | ⟨_, none, some nested, _, _, spec, _⟩, _, name, _, _, _, _, htables, hearly, hcompile,
      haccepted => by
      obtain ⟨fields, validator, hfields, hvalidator, rfl⟩ := compile_group_eq_ok.mp hcompile
      obtain ⟨given, values, hgiven, hpass, rfl⟩ := Field.judgeIn_group_accepted.mp haccepted
      rw [tables, List.forall_mem_cons] at htables
      obtain ⟨⟨hnames, hnested⟩, hinner⟩ := htables
      -- The group is judged on what its own validator has made of the value, field by field.
      have hspec : EarlySpec spec := fun stated hstated =>
        hearly.mode _ (by rw [statedMode?, hstated]; rfl)
      obtain ⟨entries, hrewrites, hshape⟩ := exists_shapeAll_of_pass hspec hvalidator hnames
        (keys_of_compileAll hfields)
        (fun haccepts => shapeAll_of_accepts nested hinner hnested hfields haccepts) hpass
      rw [Shape]
      exact ⟨given, entries, values, hgiven, hrewrites, rfl, hshape⟩
termination_by structural property => property

theorem shapeAll_of_accepts : ∀ (properties : List (String × Property)) {owner : String}
    {fields : List (String × Field)} {data : Value} {entries values : Table Value},
    (∀ table ∈ tablesOfAll properties, (Table.keys table).Nodup ∧
      ∀ entry ∈ table, entry.2.Early ev entry.1) →
    (∀ entry ∈ properties, entry.2.Early ev entry.1) →
    compileAll ev context owner properties = .ok fields →
    AcceptsAll context data entries fields values → ShapeAll ev context entries values properties
  | [], _, _, _, _, _, _, _, hcompile, haccepts => by
      rw [compileAll] at hcompile
      cases hcompile
      rw [ShapeAll]
      exact List.forall₂_nil_left_iff.mp haccepts
  | (name, property) :: rest, owner, _, _, _, _, htables, hearly, hcompile, haccepts => by
      obtain ⟨field, fields, hfield, hrest, rfl⟩ := compileAll_cons_eq_ok.mp hcompile
      obtain ⟨⟨_, value⟩, others, ⟨rfl, haccepted⟩, hothers, rfl⟩ :=
        List.forall₂_cons_left_iff.mp haccepts
      rw [tablesOfAll, List.forall_mem_append] at htables
      rw [List.forall_mem_cons] at hearly
      rw [ShapeAll]
      exact ⟨value, others, rfl, shape_of_accepted property htables.1 hearly.1 hfield haccepted,
        shapeAll_of_accepts rest htables.2 hearly.2 hrest hothers⟩
termination_by structural properties => properties

end

theorem ShapeAll.keys_eq : ∀ {properties : List (String × Property)} {entries values : Table Value},
    ShapeAll ev context entries values properties → Table.keys values = Table.keys properties
  | [], _, _, hshape => by
      rw [ShapeAll] at hshape
      rw [hshape]
      rfl
  | (name, property) :: rest, _, _, hshape => by
      rw [ShapeAll] at hshape
      obtain ⟨value, others, rfl, _, hrest⟩ := hshape
      exact congrArg (List.cons name) (ShapeAll.keys_eq hrest)

end Property

/-! ## Instances -/

/-- An instance is built of a pass without reports. -/
theorem Catalog.pass_of_build {catalog next : Catalog} {handle : Handle} {model : Model}
    {errors : List FieldError} (hentry : catalog.entry handle = .ok ⟨model, errors⟩)
    {data : Value} {made : Instance} (hbuild : catalog.build handle data = .ok (some made, next)) :
    model.run data = .ok ⟨.empty, made.values⟩ ∧ made.model = model.name ∧
      next = catalog.remember handle [] := by
  rw [Catalog.build, hentry, ok_bind] at hbuild
  obtain ⟨pass, hrun, hmade⟩ := bind_eq_ok.mp hbuild
  dsimp only at hrun hmade
  split at hmade
  next hvalid =>
    rw [Model.instanceOf, if_pos hvalid] at hmade
    cases hmade
    rw [hrun, Pass.eq_of_isValid hvalid]
    exact ⟨rfl, rfl, rfl⟩
  next => cases hmade

/-- Where every validator that a document states precedes coercion, and the checks of items leave
the values of their fields alone, an instance has the declared shape at every depth. -/
theorem Document.instance_shape {ev : Evaluator} {document : Document} {model : Model}
    (hcompile : document.compile ev = .ok model)
    (hnames : ∀ table ∈ document.tables, (Table.keys table).Nodup)
    (hwhole : Property.EarlySpec document.validator)
    (hearly : ∀ table ∈ document.tables, ∀ entry ∈ table, entry.2.Early ev entry.1)
    {catalog next : Catalog} {handle : Handle} {errors : List FieldError}
    (hentry : catalog.entry handle = .ok ⟨model, errors⟩) {data : Value} {made : Instance}
    (hbuild : catalog.build handle data = .ok (some made, next)) :
    Table.keys made.values = Table.keys document.properties ∧
      document.Shape ev data made.values := by
  obtain ⟨_, fields, validator, hfields, hvalidator, rfl⟩ := Document.compile_eq_ok.mp hcompile
  have hrun := (Catalog.pass_of_build hentry hbuild).1
  have htables : ∀ table ∈ document.tables, (Table.keys table).Nodup ∧
      ∀ entry ∈ table, entry.2.Early ev entry.1 :=
    fun table htable => ⟨hnames table htable, hearly table htable⟩
  rw [Document.tables, List.forall_mem_cons] at htables
  obtain ⟨⟨hkeys, hproperties⟩, hinner⟩ := htables
  obtain ⟨entries, hrewrites, hshape⟩ := Property.exists_shapeAll_of_pass hwhole hvalidator hkeys
    (Property.keys_of_compileAll hfields)
    (fun haccepts => Property.shapeAll_of_accepts _ hinner hproperties hfields haccepts) hrun
  exact ⟨hshape.keys_eq, entries, hrewrites, hshape⟩

/-- A list of integers. -/
def countsProperty : Property where
  typeName := some "list[int]"

/-- The leaf that it compiles to. -/
def countsLeaf : Leaf :=
  countsProperty.listLeaf .integer []
    ((Property.listRequest "counts" countsProperty .integer).validator defaultEvaluator
      (ValidatorRequest.refusal ++
        ItemCheck.program .integer (ItemCheck.wrongItem "counts".toList .integer)))

theorem countsProperty_compile (owner : String) :
    countsProperty.compile defaultEvaluator [] owner "counts" = .ok (.leaf countsLeaf) := by
  have hdeclared : LeafType.declared "list[int]" = .ok (.list, some .integer) := by rfl
  have hlists : countsProperty.Lists .integer := ⟨rfl, _, rfl, hdeclared⟩
  have hname : Lexer.isName "counts".toList = true := by decide
  have hlength : (itemCheck "counts" .integer).utf8ByteSize ≤ 16384 := by decide +kernel
  have hplain : countsProperty.Plain := ⟨rfl, rfl, rfl⟩
  have hscreen : defaultEvaluator.guard.screenSource (itemCheck "counts" .integer) = .ok () :=
    ItemCheck.itemCheck_screened .restricted hname .integer
  obtain ⟨_, rfl, hrequest⟩ := Property.compile_listRequest_plain hplain
    (Lexer.quotes_of_isName hname) hscreen hlength (by decide)
  exact (Property.compile_list_eq_ok hlists).mpr ⟨[], _, rfl, hrequest, rfl⟩

/-- A text of one character or more. -/
def nonemptyProperty : Property where
  typeName := some "str"
  constraints := [("min_length", .int 1)]

/-- A group with the text, and with the validator that trims it first. -/
def buyerProperty : Property where
  properties := some [("nickname", nonemptyProperty)]
  validator := some (.source nicknameRequest.source)

/-- A document with a list, with a text that has a default, and with the group. -/
def orderDocument : Document where
  name := "Order"
  version := "1"
  properties := [("counts", countsProperty),
    ("note", { typeName := some "str", default := some (.str "none") }),
    ("buyer", buyerProperty)]

/-- The request for the validator of the group. -/
def buyerRequest : ValidatorRequest :=
  .forModel Property.groupValidatorName nicknameRequest.source .before

/-- The validator that the request compiles to. -/
def buyerValidator : Validator :=
  buyerRequest.validator defaultEvaluator
    [.assign "nickname" (.call (.attr (.var "nickname") "strip") [])]

/-- The field that the group compiles to. -/
def buyerField : Field :=
  .group ⟨⟨"buyer", "", "", [], some buyerValidator⟩,
    [("nickname", .leaf ⟨"", .scalar .text, none, none, [.minLength 1], none⟩)]⟩

/-- The model that the document compiles to. -/
def orderModel : Model :=
  ⟨⟨"Order", "1", "", [], none⟩, [("counts", .leaf countsLeaf),
    ("note", .leaf ⟨"", .scalar .text, none, some (.str "none"), [], none⟩),
    ("buyer", buyerField)]⟩

theorem text_declared : LeafType.declared "str" = .ok (.scalar .text, none) := by
  cbv

theorem buyerProperty_compile (owner : String) :
    buyerProperty.compile defaultEvaluator [] owner "buyer" = .ok buyerField := by
  have hrequest : buyerRequest.compile defaultEvaluator = .ok buyerValidator :=
    ValidatorRequest.compile_of_source rfl nicknameSource_compile
  have hvalidator : Property.modelValidator defaultEvaluator Property.groupValidatorName
      (some (.source nicknameRequest.source)) = .ok (some buyerValidator) := by
    rw [Property.modelValidator_eq]
    exact map_eq_ok.mpr ⟨_, hrequest, rfl⟩
  have hnickname : nonemptyProperty.compile defaultEvaluator [] "buyer" "nickname" =
      .ok (.leaf ⟨"", .scalar .text, none, none, [.minLength 1], none⟩) :=
    Property.compile_leaf_eq_ok.mpr ⟨_, Property.compileLeaf_eq_ok.mpr
      ⟨_, _, _, none, text_declared, rfl, rfl, rfl⟩, rfl⟩
  have hfields : Property.compileAll defaultEvaluator [] "buyer" [("nickname", nonemptyProperty)] =
      .ok [("nickname", .leaf ⟨"", .scalar .text, none, none, [.minLength 1], none⟩)] :=
    Property.compileAll_cons_eq_ok.mpr ⟨_, [], hnickname, by rw [Property.compileAll], rfl⟩
  exact Property.compile_group_eq_ok.mpr ⟨_, _, hfields, hvalidator, rfl⟩

theorem orderDocument_compile : orderDocument.compile defaultEvaluator = .ok orderModel := by
  have hnote : Property.compileLeaf defaultEvaluator "Order" "note"
      { typeName := some "str", default := some (.str "none") } "str" =
        .ok ⟨"", .scalar .text, none, some (.str "none"), [], none⟩ :=
    Property.compileLeaf_eq_ok.mpr ⟨_, _, [], none, text_declared, rfl, rfl, rfl⟩
  have hfields : Property.compileAll defaultEvaluator [] "Order" orderDocument.properties =
      .ok orderModel.fields := by
    simp only [orderDocument, Property.compileAll, countsProperty_compile, buyerProperty_compile,
      ok_bind, pure_eq_ok]
    simp only [Property.compile, hnote, ok_bind, pure_eq_ok]
    rfl
  exact Document.compile_eq_ok.mpr ⟨by decide, _, none, hfields, rfl, rfl⟩

/-- A catalog that holds the model. -/
def orderCatalog : Catalog :=
  Catalog.register { settings := {} } orderModel

/-- An order with an entry that its document does not declare, and without a note. -/
def orderInput : Value :=
  .dict [("buyer", .dict [("nickname", .str " Ann ")]), ("counts", .list [.int 1, .int 2]),
    ("extra", .null)]

/-- The note of the instance is its default, and its nickname is the trimmed one. -/
theorem orderDocument_shape :
    ∃ made next, orderCatalog.build 0 orderInput = .ok (some made, next) ∧
      made.values = [("counts", .list [.int 1, .int 2]), ("note", .str "none"),
        ("buyer", .dict [("nickname", .str "Ann")])] ∧
      Table.keys made.values = Table.keys orderDocument.properties ∧
      orderDocument.Shape defaultEvaluator orderInput made.values := by
  have hnames : ∀ table ∈ orderDocument.tables, (Table.keys table).Nodup := by decide
  have hidentifiers : ∀ table ∈ orderDocument.tables, ∀ entry ∈ table,
      Lexer.isName entry.1.toList = true := by
    decide
  have hmodes : ∀ table ∈ orderDocument.tables, ∀ entry ∈ table,
      ∀ mode ∈ entry.2.statedMode?, mode.precedesCoercion = true := by
    decide
  have hearly : ∀ table ∈ orderDocument.tables, ∀ entry ∈ table,
      entry.2.Early defaultEvaluator entry.1 := fun table htable entry hentry =>
    Property.early_of_isName (hidentifiers table htable entry hentry)
      (hmodes table htable entry hentry)
  have hbuild : orderCatalog.build 0 orderInput = .ok (some ⟨"Order", [("counts", .list
      [.int 1, .int 2]), ("note", .str "none"), ("buyer", .dict [("nickname", .str "Ann")])]⟩, _) :=
    rfl
  refine ⟨_, _, hbuild, rfl, ?_⟩
  exact Document.instance_shape orderDocument_compile hnames (by rintro _ ⟨⟩) hearly rfl hbuild

end SchemaGuard
