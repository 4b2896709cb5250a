import SchemaGuard.Proofs.Catalog
import SchemaGuard.Proofs.Model.Independence
import SchemaGuard.Proofs.Model.Shape

/-! # Building again

Where a document states no validators, an instance is valid input, and the instance that is built
of it is the same: coercion yields what it has yielded again, the constraints and the checks of
items have passed on the same values, and a default is given as if it had been in the input.
-/

namespace SchemaGuard

open Outcome

namespace Property

/-- A property that states no validator. Its default, if it has one, is as its type and its
constraints would have it, and the check of its items judges nothing but its value and leaves it
alone. -/
structure Unstated (ev : Evaluator) (name : String) (property : Property) : Prop where
  validator : property.validator = none
  default : ∀ value, property.default = some value → ∀ typeName,
    property.typeName = some typeName → ∃ type,
      LeafType.declared typeName = .ok (type, none) ∧ type.Admits property.constraints value
  check : ∀ item, property.DeclaresItems item →
    ItemCheck.KeepsValue ev name item ∧ ItemCheck.IgnoresRecord ev name item

variable {ev : Evaluator} {context : Table Value}

/-- The check of the items of a property that is named by an identifier judges nothing but its value
and leaves it alone. -/
theorem unstated_of_isName {name : String} (hname : Lexer.isName name.toList = true)
    {property : Property} (hvalidator : property.validator = none)
    (hdefault : ∀ value, property.default = some value → ∀ typeName,
      property.typeName = some typeName → ∃ type,
        LeafType.declared typeName = .ok (type, none) ∧ type.Admits property.constraints value) :
    property.Unstated ev name where
  validator := hvalidator
  default := hdefault
  check item _ := ⟨ItemCheck.keepsValue_of_quotes (Lexer.quotes_of_isName hname) item,
    ItemCheck.ignoresRecord_of_quotes (Lexer.quotes_of_isName hname) item⟩

/-- The validator of a leaf that states none comes after coercion, leaves the value alone and asks
for nothing else. -/
theorem Unstated.leaf_validator {property : Property} {owner name typeName : String} {leaf : Leaf}
    (hunstated : property.Unstated ev name) (htype : property.typeName = some typeName)
    (hcompile : compileLeaf ev owner name property typeName = .ok leaf) :
    ∀ v, leaf.validator = some v →
      v.mode = .after ∧ ¬ v.program.Binds "value" ∧ ¬ v.program.Reads "info" := by
  obtain ⟨type, itemType, _, validator, hdeclared, _, hvalidator, rfl⟩ :=
    compileLeaf_eq_ok.mp hcompile
  intro v hv
  obtain ⟨item, body, opening, rfl, hbody, hprogram, hmode, hbinds, hreads⟩ :=
    leafValidator_unstated hunstated.validator hvalidator v hv
  obtain ⟨hkeeps, hignores⟩ := hunstated.check item ⟨typeName, type, htype, hdeclared⟩
  rw [hprogram, Program.binds_append, Program.reads_append, not_or, not_or]
  exact ⟨hmode, ⟨hbinds "value", hkeeps body hbody⟩, hreads, hignores body hbody⟩

/-- A default is accepted when it is given. -/
theorem Unstated.judge_default {property : Property} {owner name typeName : String} {leaf : Leaf}
    (hunstated : property.Unstated ev name) (htype : property.typeName = some typeName)
    (hcompile : compileLeaf ev owner name property typeName = .ok leaf) {value : Value}
    (hdefault : leaf.default = some value) (data : Value) :
    leaf.judge name value context data = .ok (.accepted value) := by
  obtain ⟨type, itemType, constraints, validator, hdeclared, hconstraints, hvalidator, rfl⟩ :=
    compileLeaf_eq_ok.mp hcompile
  obtain ⟨_, hplain, hadmits⟩ := hunstated.default value hdefault typeName htype
  cases hdeclared.symm.trans hplain
  -- No validator is stated and there are no items to check, so there is none at all.
  have hnone : validator = none := by
    cases validator with
    | none => rfl
    | some v =>
        obtain ⟨item, _, _, hitem, _⟩ :=
          leafValidator_unstated hunstated.validator hvalidator v rfl
        cases hitem
  subst hnone
  have hconform : Leaf.conform
      ⟨property.description, type, none, property.default, constraints, none⟩ name value =
        .accepted value :=
    Leaf.conform_accepted.mpr ⟨hadmits.coerced,
      (readConstraints_holds hconstraints value).mpr hadmits.satisfied⟩
  exact Leaf.judge_accepted.mpr ⟨value, value, rfl, hconform, rfl⟩

/-- The value that a leaf has been accepted with is accepted again in every input. -/
theorem Unstated.leaf_again {property : Property} {owner name typeName : String} {leaf : Leaf}
    (hunstated : property.Unstated ev name) (htype : property.typeName = some typeName)
    (hcompile : compileLeaf ev owner name property typeName = .ok leaf)
    {data : Value} {entries : Table Value} {value : Value}
    (haccepted : (Field.leaf leaf).judgeIn context data entries name = .ok (.accepted value))
    (data' : Value) : leaf.judge name value context data' = .ok (.accepted value) := by
  have hvalidator := hunstated.leaf_validator htype hcompile
  have hkeeps : leaf.KeepsCoerced := fun v hv => .inr (hvalidator v hv).2.1
  have hignores : (Field.leaf leaf).IgnoresRecord := fun v hv => (hvalidator v hv).2.2
  obtain ⟨_, hdefault⟩ | ⟨given, _, hjudge⟩ := Field.judgeIn_leaf_accepted.mp haccepted
  · exact hunstated.judge_default htype hcompile hdefault data'
  · rw [← Leaf.judge_anywhere hignores name value context data data']
    obtain ⟨replaced, coerced, _, hconform, hlate⟩ := Leaf.judge_accepted.mp hjudge
    obtain rfl := Leaf.consult_keeps hkeeps hlate
    obtain ⟨hcoerce, hholds⟩ := Leaf.conform_accepted.mp hconform
    have hagain : leaf.conform name value = .accepted value :=
      Leaf.conform_accepted.mpr ⟨LeafType.coerced_again hcoerce, hholds⟩
    exact Leaf.judge_accepted.mpr
      ⟨value, value, Leaf.consult_before (fun v hv => (hvalidator v hv).1) _ _ _, hagain, hlate⟩

/-! ## Groups -/

/-- A model without a validator of its own makes the same pass over the values of its pass. -/
theorem pass_again {header : ModelHeader} (hvalidator : header.validator = none)
    {fields : List (String × Field)} (hnames : (Table.keys fields).Nodup)
    (hagain : ∀ {data : Value} {entries values : Table Value},
      AcceptsAll header.context data entries fields values → ∀ data' entries',
        (∀ entry ∈ values, Table.get? entries' entry.1 = some entry.2) →
          AcceptsAll header.context data' entries' fields values)
    {tag : String} {given : Value} {values : Table Value}
    (hpass : Model.pass tag given ⟨header, fields⟩ = .ok ⟨.empty, values⟩) (tag' : String) :
    Model.pass tag' (.dict values) ⟨header, fields⟩ = .ok ⟨.empty, values⟩ := by
  have hat (early : Bool) : header.validatorAt early = none :=
    ModelHeader.validatorAt_of_none hvalidator early
  obtain ⟨entries, _, haccepts⟩ := (Model.pass_eq_valid (hat false) hnames).mp hpass
  -- The values hold every field of the model, so no default is asked for.
  have hget : ∀ entry ∈ values, Table.get? values entry.1 = some entry.2 :=
    fun entry hentry => Table.get?_of_mem (haccepts.keys_eq ▸ hnames) hentry
  exact (Model.pass_eq_valid (hat false) hnames).mpr
    ⟨values, ModelHeader.prepare_of_none (hat true) tag' _, hagain haccepts _ values hget⟩

mutual

theorem accepted_again : ∀ (property : Property) {owner name : String} {field : Field}
    {data : Value} {entries : Table Value} {value : Value},
    (∀ table ∈ property.tables, (Table.keys table).Nodup ∧
      ∀ entry ∈ table, entry.2.Unstated ev entry.1) →
    property.Unstated ev name → property.compile ev context owner name = .ok field →
    field.judgeIn context data entries name = .ok (.accepted value) →
    ∀ data' entries', Table.get? entries' name = some value →
      field.judgeIn context data' entries' name = .ok (.accepted value)
  | ⟨_, some _, some _, _, _, _, _⟩, _, _, _, _, _, _, _, _, hcompile, _, _, _, _ => by
      rw [compile] at hcompile
      cases hcompile
  | ⟨_, none, none, _, _, _, _⟩, _, _, _, _, _, _, _, _, hcompile, _, _, _, _ => by
      rw [compile] at hcompile
      cases hcompile
  | ⟨_, some _, none, _, _, _, _⟩, _, _, _, _, _, _, _, hunstated, hcompile, haccepted, data', _,
      hvalue => by
      obtain ⟨leaf, hleaf, rfl⟩ := compile_leaf_eq_ok.mp hcompile
      exact Field.judgeIn_leaf_accepted.mpr
        (.inr ⟨_, hvalue, hunstated.leaf_again rfl hleaf haccepted data'⟩)
  | ⟨_, none, some nested, _, _, _, _⟩, _, name, _, _, _, _, htables, hunstated, hcompile,
      haccepted, _, _, hvalue => by
      obtain ⟨fields, validator, hfields, hvalidator, rfl⟩ := compile_group_eq_ok.mp hcompile
      obtain rfl : _ = none := hunstated.validator
      cases hvalidator
      obtain ⟨given, values, hgiven, hpass, rfl⟩ := Field.judgeIn_group_accepted.mp haccepted
      rw [tables, List.forall_mem_cons] at htables
      obtain ⟨⟨hnames, hnested⟩, hinner⟩ := htables
      have hpass' := pass_again rfl ((keys_of_compileAll hfields).symm ▸ hnames)
        (fun haccepts => acceptsAll_again nested hinner hnested hfields haccepts) hpass wholeModel
      exact Field.judgeIn_group_accepted.mpr ⟨_, values, hvalue, hpass', rfl⟩
termination_by structural property => property

theorem acceptsAll_again : ∀ (properties : List (String × Property)) {owner : String}
    {fields : List (String × Field)} {data : Value} {entries values : Table Value},
    (∀ table ∈ tablesOfAll properties, (Table.keys table).Nodup ∧
      ∀ entry ∈ table, entry.2.Unstated ev entry.1) →
    (∀ entry ∈ properties, entry.2.Unstated ev entry.1) →
    compileAll ev context owner properties = .ok fields →
    AcceptsAll context data entries fields values → ∀ data' entries',
      (∀ entry ∈ values, Table.get? entries' entry.1 = some entry.2) →
        AcceptsAll context data' entries' fields values
  | [], _, _, _, _, _, _, _, hcompile, haccepts, _, _, _ => by
      rw [compileAll] at hcompile
      cases hcompile
      obtain rfl := List.forall₂_nil_left_iff.mp haccepts
      exact List.Forall₂.nil
  | (name, property) :: rest, owner, _, _, _, _, htables, hunstated, hcompile, haccepts, data',
      entries', hget => by
      obtain ⟨field, fields, hfield, hrest, rfl⟩ := compileAll_cons_eq_ok.mp hcompile
      obtain ⟨⟨_, value⟩, others, ⟨rfl, haccepted⟩, hothers, rfl⟩ :=
        List.forall₂_cons_left_iff.mp haccepts
      rw [tablesOfAll, List.forall_mem_append] at htables
      rw [List.forall_mem_cons] at hunstated hget
      exact List.Forall₂.cons
        ⟨rfl, accepted_again property htables.1 hunstated.1 hfield haccepted data' entries' hget.1⟩
        (acceptsAll_again rest htables.2 hunstated.2 hrest hothers data' entries' hget.2)
termination_by structural properties => properties

end

end Property

/-! ## Instances -/

theorem Catalog.build_of_pass {catalog : Catalog} {handle : Handle} {model : Model}
    {errors : List FieldError} (hentry : catalog.entry handle = .ok ⟨model, errors⟩)
    {data : Value} {values : Table Value} (hrun : model.run data = .ok ⟨.empty, values⟩) :
    catalog.build handle data = .ok (some ⟨model.name, values⟩, catalog.remember handle []) := by
  rw [build, hentry, ok_bind, hrun]
  rfl

/-- Where a document states no validator, every default is as its type and its constraints would
have it, and the checks of items judge nothing but the values of their fields and leave them
alone, the value of an instance builds the same instance again and nothing is reported. -/
theorem Document.instance_rebuilt {ev : Evaluator} {document : Document} {model : Model}
    (hcompile : document.compile ev = .ok model)
    (hnames : ∀ table ∈ document.tables, (Table.keys table).Nodup)
    (hwhole : document.validator = none)
    (hunstated : ∀ table ∈ document.tables, ∀ entry ∈ table, entry.2.Unstated ev entry.1)
    {catalog next : Catalog} {handle : Handle} {errors : List FieldError}
    (hentry : catalog.entry handle = .ok ⟨model, errors⟩) {data : Value} {made : Instance}
    (hbuild : catalog.build handle data = .ok (some made, next)) :
    ∃ last, next.build handle made.toValue = .ok (some made, last) ∧
      last.entry handle = .ok ⟨model, []⟩ := by
  obtain ⟨_, fields, validator, hfields, hvalidator, rfl⟩ := Document.compile_eq_ok.mp hcompile
  rw [hwhole] at hvalidator
  cases hvalidator
  obtain ⟨hrun, hmodel, rfl⟩ := Catalog.pass_of_build hentry hbuild
  have htables : ∀ table ∈ document.tables, (Table.keys table).Nodup ∧
      ∀ entry ∈ table, entry.2.Unstated ev entry.1 :=
    fun table htable => ⟨hnames table htable, hunstated table htable⟩
  rw [Document.tables, List.forall_mem_cons] at htables
  obtain ⟨⟨hkeys, hproperties⟩, hinner⟩ := htables
  have hagain := Property.pass_again rfl ((Property.keys_of_compileAll hfields).symm ▸ hkeys)
    (fun haccepts => Property.acceptsAll_again _ hinner hproperties hfields haccepts) hrun
    document.name
  have hremembered := Catalog.entry_remember hentry []
  refine ⟨_, ?_, Catalog.entry_remember hremembered []⟩
  rw [Instance.toValue, Catalog.build_of_pass hremembered hagain, ← hmodel]

/-- A day that is the leap day of 2024 unless another one is given. -/
def dueProperty : Property where
  typeName := some "date"
  default := some (.str "2024-02-29")

/-- A group with an integer. -/
def personProperty : Property where
  properties := some [("age", { typeName := some "int" })]

/-- A document with a list, a set, the day and the group. -/
def invoiceDocument : Document where
  name := "Invoice"
  version := "1"
  properties := [("counts", countsProperty), ("marks", { typeName := some "set" }),
    ("due", dueProperty), ("person", personProperty)]

/-- The model that the document compiles to. -/
def invoiceModel : Model :=
  ⟨⟨"Invoice", "1", "", [], none⟩, [("counts", .leaf countsLeaf),
    ("marks", .leaf ⟨"", .set, none, none, [], none⟩),
    ("due", .leaf ⟨"", .scalar .date, none, some (.str "2024-02-29"), [], none⟩),
    ("person", .group ⟨⟨"person", "", "", [], none⟩,
      [("age", .leaf ⟨"", .scalar .integer, none, none, [], none⟩)]⟩)]⟩

theorem date_declared : LeafType.declared "date" = .ok (.scalar .date, none) := by
  cbv

theorem invoiceDocument_compile : invoiceDocument.compile defaultEvaluator = .ok invoiceModel := by
  have hset : LeafType.declared "set" = .ok (.set, none) := by cbv
  have hinteger : LeafType.declared "int" = .ok (.scalar .integer, none) := by cbv
  have hmarks : Property.compileLeaf defaultEvaluator "Invoice" "marks"
      { typeName := some "set" } "set" = .ok ⟨"", .set, none, none, [], none⟩ :=
    Property.compileLeaf_eq_ok.mpr ⟨_, _, [], none, hset, rfl, rfl, rfl⟩
  have hdue : Property.compileLeaf defaultEvaluator "Invoice" "due" dueProperty "date" =
      .ok ⟨"", .scalar .date, none, some (.str "2024-02-29"), [], none⟩ :=
    Property.compileLeaf_eq_ok.mpr ⟨_, _, [], none, date_declared, rfl, rfl, rfl⟩
  have hage : Property.compileLeaf defaultEvaluator "person" "age"
      { typeName := some "int" } "int" = .ok ⟨"", .scalar .integer, none, none, [], none⟩ :=
    Property.compileLeaf_eq_ok.mpr ⟨_, _, [], none, hinteger, rfl, rfl, rfl⟩
  rw [dueProperty] at hdue
  have hfields : Property.compileAll defaultEvaluator [] "Invoice" invoiceDocument.properties =
      .ok invoiceModel.fields := by
    simp only [invoiceDocument, Property.compileAll, countsProperty_compile, ok_bind, pure_eq_ok]
    simp only [dueProperty, personProperty, Property.compile, Property.compileAll, hmarks, hdue,
      hage, ok_bind, pure_eq_ok]
    rfl
  exact Document.compile_eq_ok.mpr ⟨by decide, _, none, hfields, rfl, rfl⟩

/-- A catalog that holds the model. -/
def invoiceCatalog : Catalog :=
  Catalog.register { settings := {} } invoiceModel

/-- An invoice with a repetition among its marks, an age in words and no day. -/
def invoiceInput : Value :=
  .dict [("person", .dict [("age", .str " 7 ")]), ("counts", .list [.int 1, .int 2]),
    ("marks", .list [.int 1, .str "x", .int 1])]

/-- What was made of the invoice is made of itself again. -/
theorem invoiceDocument_rebuilt :
    ∃ made next last, invoiceCatalog.build 0 invoiceInput = .ok (some made, next) ∧
      made.values = [("counts", .list [.int 1, .int 2]), ("marks", .list [.int 1, .str "x"]),
        ("due", .str "2024-02-29"), ("person", .dict [("age", .int 7)])] ∧
      next.build 0 made.toValue = .ok (some made, last) ∧
      last.entry 0 = .ok ⟨invoiceModel, []⟩ := by
  have hnames : ∀ table ∈ invoiceDocument.tables, (Table.keys table).Nodup := by decide
  have hidentifiers : ∀ table ∈ invoiceDocument.tables, ∀ entry ∈ table,
      Lexer.isName entry.1.toList = true := by
    decide
  have hvalidators : ∀ table ∈ invoiceDocument.tables, ∀ entry ∈ table,
      entry.2.validator = none := by
    decide
  have hdefaults : ∀ table ∈ invoiceDocument.tables, ∀ entry ∈ table,
      ∀ value, entry.2.default = some value → entry.2 = dueProperty := by
    have htables : invoiceDocument.tables =
        [invoiceDocument.properties, [("age", { typeName := some "int" })]] := rfl
    rw [htables]
    simp only [invoiceDocument, List.forall_mem_cons]
    simp [countsProperty, personProperty]
  have hunstated : ∀ table ∈ invoiceDocument.tables, ∀ entry ∈ table,
      entry.2.Unstated defaultEvaluator entry.1 := by
    intro table htable entry hentry
    refine Property.unstated_of_isName (hidentifiers table htable entry hentry)
      (hvalidators table htable entry hentry) fun value hvalue typeName htype => ?_
    have hdue := hdefaults table htable entry hentry value hvalue
    rw [hdue] at hvalue htype ⊢
    cases hvalue
    cases htype
    exact ⟨_, date_declared, by cbv, by simp [dueProperty]⟩
  have hbuild : invoiceCatalog.build 0 invoiceInput = .ok (some ⟨"Invoice", [("counts", .list
      [.int 1, .int 2]), ("marks", .list [.int 1, .str "x"]), ("due", .str "2024-02-29"),
      ("person", .dict [("age", .int 7)])]⟩, _) :=
    rfl
  obtain ⟨last, hagain, hentry⟩ := Document.instance_rebuilt invoiceDocument_compile hnames rfl
    hunstated rfl hbuild
  exact ⟨_, _, last, hbuild, rfl, hagain, hentry⟩

end SchemaGuard
