import SchemaGuard.Proofs.Model.Attribution
import SchemaGuard.Proofs.Model.Totality
import SchemaGuard.Proofs.Validator.CheckedList
import SchemaGuard.Proofs.Validator.ItemScreen

/-! # Lists of items of a declared type

The field of a list whose items have a declared type is always validated, for the check of the
items is made part of its validator. By itself the check accepts the lists of nonempty items of the
type, and a validator that the document states for the field cannot weaken it.
-/

namespace SchemaGuard

open Outcome

/-! ## Judgements on lists -/

theorem Validator.judge_errors {validator : Validator} {value data : Value}
    {context : Table Value} {judgement : Judgement}
    (hjudge : validator.judge value context data = .ok judgement) :
    judgement.errors = [] ↔ ∃ replaced, validator.callField value context data = .ok replaced := by
  unfold Validator.judge at hjudge
  split at hjudge
  next replaced hcall =>
    cases hjudge
    simp [Judgement.errors, hcall]
  next error hcall =>
    obtain ⟨message, _, hrejected⟩ := bind_eq_ok.mp hjudge
    cases hrejected
    simp [Judgement.errors, hcall]

namespace Leaf

variable {leaf : Leaf} {validator : Validator} {name : String} {items : List Value}
  {context : Table Value} {data : Value} {judgement : Judgement}

/-- A list without complaints has been before the validator of its field, which was content. -/
theorem callField_of_judge (htype : leaf.type = .list)
    (hvalidator : leaf.validator = some validator)
    (hjudge : leaf.judge name (.list items) context data = .ok judgement)
    (hclean : judgement.errors = []) :
    ∃ replaced, validator.callField (.list items) context data = .ok replaced := by
  unfold judge at hjudge
  obtain ⟨early, hearly, hjudge⟩ := bind_eq_ok.mp hjudge
  unfold consult at hearly hjudge
  simp only [hvalidator] at hearly hjudge
  by_cases hmode : validator.mode.precedesCoercion = true
  · rw [if_pos hmode] at hearly
    refine (Validator.judge_errors hearly).mp ?_
    cases early with
    | accepted value => rfl
    | rejected errors =>
        cases hjudge
        exact hclean
  · rw [if_neg hmode] at hearly
    cases hearly
    have hlate : validator.mode.precedesCoercion = false := by simpa using hmode
    simp only [conform, htype, LeafType.coerce?, if_pos hlate] at hjudge
    -- A list is coerced to itself, so only the constraints stand before the validator.
    split at hjudge
    next errors hrejected =>
      cases hjudge
      split at hrejected
      next => cases hrejected
      next messages hne =>
        cases hrejected
        exact absurd (List.map_eq_nil_iff.mp hclean) hne
    next value haccepted =>
      split at haccepted
      next =>
        cases haccepted
        exact (Validator.judge_errors hjudge).mp hclean
      next => cases haccepted

/-- Without constraints the judgement on a list is that of a validator that follows coercion. -/
theorem judge_unconstrained (htype : leaf.type = .list) (hconstraints : leaf.constraints = [])
    (hvalidator : leaf.validator = some validator) (hmode : validator.mode = .after) :
    leaf.judge name (.list items) context data =
      validator.judge (.list items) context data := by
  have hlate : validator.mode.precedesCoercion = false := by rw [hmode]; rfl
  unfold judge consult conform violations
  simp only [hvalidator, hlate, htype, hconstraints, LeafType.coerce?, List.filter_nil,
    List.map_nil, Bool.false_eq_true, if_false, if_true, ok_bind]

end Leaf

/-! ## Compiled lists -/

namespace Property

/-- A property that declares a list with a type for its items. -/
def Lists (property : Property) (item : ScalarType) : Prop :=
  property.properties = none ∧ ∃ typeName, property.typeName = some typeName ∧
    LeafType.declared typeName = .ok (.list, some item)

/-- A property that states nothing beside its kind, and refuses empty values as it does by
default. -/
structure Plain (property : Property) : Prop where
  constraints : property.constraints = []
  validator : property.validator = none
  refusesEmpty : property.refusesEmpty = true

/-- The request for the validator of a list with a type for its items. -/
def listRequest (name : String) (property : Property) (item : ScalarType) : ValidatorRequest :=
  .forField name (String.intercalate "\n" (leafSources name property (some item)))
    ((property.validator.map (·.mode .after)).getD .after) property.refusesEmpty

/-- The leaf that a list with a type for its items is compiled to. -/
def listLeaf (property : Property) (item : ScalarType) (constraints : List Constraint)
    (validator : Validator) : Leaf :=
  ⟨property.description, .list, some item, property.default, constraints, some validator⟩

variable {ev : Evaluator} {name : String} {property : Property} {item : ScalarType}

theorem judge_listLeaf_ok {request : ValidatorRequest} {validator : Validator}
    (hcompile : request.compile ev = .ok validator) (constraints : List Constraint)
    (value : Value) (context : Table Value) (data : Value) :
    ∃ judgement, (property.listLeaf item constraints validator).judge name value context data =
      .ok judgement := by
  have hscreened : ∀ v ∈ (property.listLeaf item constraints validator).validator.toList,
      v.Screened := by
    simpa [listLeaf] using Validator.screened_of_compile hcompile
  exact Leaf.judge_ok hscreened name value context data

theorem leafRequest?_list (name : String) (property : Property) (item : ScalarType) :
    leafRequest? name property (some item) = some (listRequest name property item) := by
  unfold leafRequest? listRequest leafSources
  cases property.validator <;> rfl

/-- The program that refuses empty values, where a property asks for it. -/
def refusal (property : Property) : Program :=
  if property.refusesEmpty then ValidatorRequest.refusal else []

theorem opening_listRequest (name : String) (property : Property) (item : ScalarType) :
    (listRequest name property item).opening = .ok property.refusal := by
  have hsubject : (listRequest name property item).subject = .field := rfl
  have hrefuses : (listRequest name property item).refusesEmpty = property.refusesEmpty := rfl
  rw [ValidatorRequest.opening, refusal, hsubject, hrefuses]
  cases property.refusesEmpty with
  | true => exact ValidatorRequest.parse_refusalOfEmpty
  | false => rfl

/-- A collection with a type for its items is compiled to a leaf with a validator. -/
theorem compile_items_eq_ok {type : LeafType} {typeName : String}
    (hproperties : property.properties = none) (htype : property.typeName = some typeName)
    (hdeclared : LeafType.declared typeName = .ok (type, some item)) {context : Table Value}
    {owner : String} {field : Field} : property.compile ev context owner name = .ok field ↔
      ∃ constraints validator,
        readConstraints (owner ++ "." ++ name) type property.constraints = .ok constraints ∧
        (listRequest name property item).compile ev = .ok validator ∧
        field = .leaf ⟨property.description, type, some item, property.default, constraints,
          some validator⟩ := by
  obtain ⟨description, typeName', properties, default, constraints, spec, refusesEmpty⟩ := property
  dsimp only at hproperties htype
  subst hproperties htype
  rw [compile, bind_eq_ok]
  simp only [compileLeaf_eq_ok, leafValidator_eq, hdeclared, Except.ok.injEq, Prod.mk.injEq,
    pure_eq_ok]
  constructor
  · rintro ⟨leaf, ⟨_, _, read, validator, ⟨rfl, rfl⟩, hread, hvalidator, rfl⟩, rfl⟩
    rw [leafRequest?_list] at hvalidator
    obtain ⟨compiled, hcompiled, rfl⟩ := map_eq_ok.mp hvalidator
    exact ⟨read, compiled, hread, hcompiled, rfl⟩
  · rintro ⟨read, compiled, hread, hcompiled, rfl⟩
    refine ⟨_, ⟨_, _, read, some compiled, ⟨rfl, rfl⟩, hread, ?_, rfl⟩, rfl⟩
    rw [leafRequest?_list]
    exact map_eq_ok.mpr ⟨compiled, hcompiled, rfl⟩

theorem compile_list_eq_ok (hlists : property.Lists item) {context : Table Value} {owner : String}
    {field : Field} : property.compile ev context owner name = .ok field ↔
      ∃ constraints validator,
        readConstraints (owner ++ "." ++ name) .list property.constraints = .ok constraints ∧
        (listRequest name property item).compile ev = .ok validator ∧
        field = .leaf (property.listLeaf item constraints validator) := by
  obtain ⟨hproperties, typeName, htype, hdeclared⟩ := hlists
  exact compile_items_eq_ok hproperties htype hdeclared

/-- The validator of a list whose document states none: it refuses the empty list, and then it
checks the items. -/
theorem compile_listRequest_plain {body : List Char} (hplain : property.Plain)
    (hname : Lexer.Quotes name.toList body)
    (hscreen : ev.guard.screenSource (itemCheck name item) = .ok ())
    (hlength : (itemCheck name item).utf8ByteSize ≤ ev.limits.maxSourceLength)
    (hdepth : 4 ≤ ev.limits.maxCallDepth) :
    ∃ program,
      program =
        ValidatorRequest.refusal ++ ItemCheck.program item (ItemCheck.wrongItem body item) ∧
      (listRequest name property item).compile ev =
        .ok ((listRequest name property item).validator ev program) := by
  have hsource : (listRequest name property item).source = itemCheck name item := by
    unfold listRequest leafSources
    rw [hplain.validator]
    rfl
  have hopening : (listRequest name property item).opening = .ok ValidatorRequest.refusal := by
    rw [opening_listRequest, refusal, hplain.refusesEmpty]
    rfl
  have hcompile := ItemCheck.compile_itemCheck hname hscreen hlength hdepth
  rw [← hsource] at hcompile
  exact ⟨_, rfl, ValidatorRequest.compile_eq_ok.mpr
    ⟨_, ValidatorRequest.program_eq_ok.mpr ⟨_, _, hcompile, hopening, rfl⟩, rfl⟩⟩

theorem listRequest_source {spec : ValidatorSpec} (hspec : property.validator = some spec) :
    (listRequest name property item).source = ItemCheck.followed spec.text name item := by
  unfold listRequest leafSources
  rw [hspec]
  rfl

/-- A list that states a validator and no constraints compiles when the source of the validator does
with the check of the items after it. -/
theorem compile_list_ok (hlists : property.Lists item) (hconstraints : property.constraints = [])
    {spec : ValidatorSpec} (hspec : property.validator = some spec) {whole : Program}
    (hwhole : ev.compile (ItemCheck.followed spec.text name item) = .ok whole)
    (context : Table Value) (owner : String) :
    ∃ field, property.compile ev context owner name = .ok field := by
  have hread : readConstraints (owner ++ "." ++ name) .list property.constraints = .ok [] := by
    rw [hconstraints]
    rfl
  rw [← listRequest_source hspec] at hwhole
  have hprogram : (listRequest name property item).program ev = .ok _ :=
    ValidatorRequest.program_eq_ok.mpr
      ⟨whole, property.refusal, hwhole, opening_listRequest name property item, rfl⟩
  exact ⟨_, (compile_list_eq_ok hlists).mpr
    ⟨[], _, hread, ValidatorRequest.compile_eq_ok.mpr ⟨_, hprogram, rfl⟩, rfl⟩⟩

/-- The validator of a list whose document states one: at its end stands the check of the items, and
before it nothing binds a name that the stated program does not bind. -/
theorem compile_listRequest_stated {body : List Char} {spec : ValidatorSpec} {stated : Program}
    {validator : Validator} (hspec : property.validator = some spec)
    (hname : Lexer.Quotes name.toList body) (hstated : ev.compile spec.text = .ok stated)
    (hcompile : (listRequest name property item).compile ev = .ok validator) :
    4 ≤ ev.limits.maxCallDepth ∧ ∃ before program,
      program = before ++ ItemCheck.program item (ItemCheck.wrongItem body item) ∧
      validator = (listRequest name property item).validator ev program ∧
      ∀ other, before.Binds other → stated.Binds other := by
  obtain ⟨program, hprogram, rfl⟩ := ValidatorRequest.compile_eq_ok.mp hcompile
  obtain ⟨whole, opening, hwhole, hopening, rfl⟩ := ValidatorRequest.program_eq_ok.mp hprogram
  rw [listRequest_source hspec] at hwhole
  obtain ⟨_, _, hdepth, rfl⟩ := (ItemCheck.compile_followed hstated hname).mp hwhole
  refine ⟨hdepth, opening ++ stated, _, (List.append_assoc _ _ _).symm, rfl, fun other hbinds => ?_⟩
  obtain hbinds | hbinds := Program.binds_append.mp hbinds
  · exact absurd hbinds (ValidatorRequest.opening_binds hopening other)
  · exact hbinds

end Property

/-! ## Lists in documents -/

/-- The text of a validator that ends inside of a block. -/
def labelsSource : String :=
  "if value:\n    pass"

/-- A list of labels with this validator, which precedes coercion. -/
def labelsProperty : Property where
  typeName := some "list[str]"
  validator := some (.full labelsSource (some .before))

/-- A document with a list of labels. -/
def labelsDocument : Document where
  name := "Labels"
  version := "1"
  properties := [("labels", labelsProperty)]

theorem labelsProperty_lists : labelsProperty.Lists .text := by
  have hdeclared : LeafType.declared "list[str]" = .ok (.list, some .text) := by rfl
  exact ⟨rfl, _, rfl, hdeclared⟩

theorem labelsSource_compile : (Evaluator.withBuiltins {} .restricted).compile labelsSource =
    .ok [.branch [(.var "value", [.pass])] []] := by
  refine Evaluator.compile_of_scan rfl (by cbv) (by cbv)
    ⟨?final, ?scan, ?read⟩ rfl
  case scan =>
    cbv
    rfl
  case read => cbv

theorem labelsProperty_compile :
    ∃ field, labelsProperty.compile (.withBuiltins {} .restricted) [] "Labels" "labels" =
      .ok field := by
  have hname : Lexer.isName "labels".toList = true := by decide
  have hinnocent : Screen.isInnocent (Text.dedent labelsSource.toList ++ ['\n']) = true := by
    cbv
  have hlength : (ItemCheck.followed labelsSource "labels" .text).utf8ByteSize ≤ 16384 := by
    decide +kernel
  have hwhole := (ItemCheck.compile_followed labelsSource_compile
    (Lexer.quotes_of_isName hname)).mpr
      ⟨ItemCheck.followed_screened .restricted hinnocent hname .text, hlength, by decide, rfl⟩
  exact Property.compile_list_ok labelsProperty_lists rfl rfl hwhole [] "Labels"

theorem labelsDocument_compile :
    ∃ model, labelsDocument.compile (.withBuiltins {} .restricted) = .ok model := by
  obtain ⟨field, hfield⟩ := labelsProperty_compile
  obtain ⟨fields, hfields⟩ : ∃ fields, Property.compileAll (.withBuiltins {} .restricted) []
      "Labels" labelsDocument.properties = .ok fields :=
    Property.compileAll_ok (by simpa [labelsDocument] using ⟨field, hfield⟩)
  exact ⟨_, Document.compile_eq_ok.mpr ⟨by decide, fields, none, hfields, rfl, rfl⟩⟩

/-- The judgement on a list for which its document states nothing else. -/
theorem Leaf.judge_plain_list {ev : Evaluator} (hfunctions : ev.functions = Registry.restricted)
    (hdepth : 4 ≤ ev.limits.maxCallDepth) {name : String} {property : Property} {item : ScalarType}
    (hplain : property.Plain) {program : Program} {message : String}
    (hprogram : program = ValidatorRequest.refusal ++ ItemCheck.program item message)
    {items : List Value} (hsteps : 3 * items.length + 2 ≤ ev.limits.maxIterations)
    {context : Table Value} {data : Value} {judgement : Judgement}
    (hjudge : (property.listLeaf item []
      ((Property.listRequest name property item).validator ev program)).judge name (.list items)
        context data = .ok judgement) :
    judgement.errors = [] ↔
      items ≠ [] ∧ ∀ value ∈ items, ItemCheck.Passes (ItemCheck.sought name item items) value := by
  have hmode : ((Property.listRequest name property item).validator ev program).mode = .after := by
    show (property.validator.map (·.mode .after)).getD .after = .after
    rw [hplain.validator]
    rfl
  rw [Leaf.judge_unconstrained rfl rfl rfl hmode] at hjudge
  rw [Validator.judge_errors hjudge]
  exact ItemCheck.callField_ok_iff rfl hfunctions hdepth hprogram hsteps

/-- A list with a type for its items, and nothing else that its document states for it, is free of
reports just when it is a list of nonempty items of the type. This holds of every field whose name
can stand in a literal and is not that of the type. In a field that is named after the type the
items are compared with the list itself instead. -/
theorem Document.list_free_iff {limits : Limits} {guard : Guard} {document : Document}
    (hnamed : Text.isBlankLine document.name.toList = false) (hwhole : document.validator = none)
    (hkeys : (Table.keys document.properties).Nodup) {name : String} {property : Property}
    {item : ScalarType} (hproperty : (name, property) ∈ document.properties)
    (hlists : property.Lists item) (hplain : property.Plain)
    (hapart : ∀ other ∈ Table.keys document.properties, other ≠ name →
      ∀ inner, name ≠ other ++ "." ++ inner)
    (hothers : ∀ entry ∈ document.properties, entry.1 ≠ name → ∃ field,
      entry.2.compile (.withBuiltins limits guard) document.context document.name entry.1 =
        .ok field)
    {body : List Char} (hname : Lexer.Quotes name.toList body)
    (hscreen : guard.screenSource (itemCheck name item) = .ok ())
    (hlength : (itemCheck name item).utf8ByteSize ≤ limits.maxSourceLength)
    (hdepth : 4 ≤ limits.maxCallDepth) :
    ∃ model, document.compile (.withBuiltins limits guard) = .ok model ∧
      ∀ entries items, Table.get? entries name = some (.list items) →
        3 * items.length + 2 ≤ limits.maxIterations →
          ∃ pass, model.run (.dict entries) = .ok pass ∧
            ((∀ error ∈ pass.report.errors, error.field ≠ name) ↔
              items ≠ [] ∧ ∀ value ∈ items, value.truthy = true ∧
                if name = item.name then Function.isinstance [value, .list items] = .ok (.bool true)
                else value.hasKind? item.name = some true) := by
  let ev := Evaluator.withBuiltins limits guard
  obtain ⟨program, hprogram, hrequest⟩ : ∃ program, _ ∧
      (Property.listRequest name property item).compile ev = .ok _ :=
    Property.compile_listRequest_plain hplain hname hscreen hlength hdepth
  have hfield : property.compile ev document.context document.name name = .ok (.leaf _) :=
    (Property.compile_list_eq_ok hlists).mpr
      ⟨[], _, by rw [hplain.constraints]; rfl, hrequest, rfl⟩
  obtain ⟨fields, hfields⟩ : ∃ fields, Property.compileAll ev document.context document.name
      document.properties = .ok fields := by
    refine Property.compileAll_ok fun entry hentry => ?_
    by_cases heq : entry.1 = name
    · rw [List.inj_on_of_nodup_map hkeys hentry hproperty heq]
      exact ⟨_, hfield⟩
    · exact hothers entry hentry heq
  have hcompile : document.compile ev = .ok _ := Document.compile_eq_ok.mpr
    ⟨hnamed, fields, none, hfields, by rw [hwhole]; rfl, rfl⟩
  refine ⟨_, hcompile, fun entries items hitems hsteps => ?_⟩
  obtain ⟨pass, hrun⟩ :=
    Model.pass_ok _ document.name (.dict entries) (Document.compile_screened hcompile)
  obtain ⟨judgement, hjudge⟩ : ∃ judgement, (property.listLeaf item [] _).judge name (.list items)
      document.context (.dict entries) = .ok judgement :=
    Property.judge_listLeaf_ok hrequest _ _ _ _
  refine ⟨pass, hrun, ?_⟩
  rw [Document.free_iff hcompile hwhole hkeys hproperty hapart hfield hrun
    ((Field.judgeIn_leaf hitems).trans hjudge),
    Leaf.free_iff (Property.compile_named hfield) hjudge,
    Leaf.judge_plain_list rfl hdepth hplain hprogram hsteps hjudge]
  simp only [ItemCheck.passes_sought]

/-- A document with one field, for a list of integers. -/
def countsDocument (field : String) : Document where
  name := "Counts"
  version := "1"
  properties := [(field, { typeName := some "list[int]" })]

/-- The same list passes under another name and is refused in the field that is named after the type
of its items. -/
theorem countsDocument_free_iff :
    (∃ model, (countsDocument "counts").compile (.withBuiltins {} .restricted) = .ok model ∧
      ∃ pass, model.run (.dict [("counts", .list [.int 1])]) = .ok pass ∧
        ∀ error ∈ pass.report.errors, error.field ≠ "counts") ∧
    ∃ model, (countsDocument "int").compile (.withBuiltins {} .restricted) = .ok model ∧
      ∃ pass, model.run (.dict [("int", .list [.int 1])]) = .ok pass ∧
        ¬ ∀ error ∈ pass.report.errors, error.field ≠ "int" := by
  have hdeclared : LeafType.declared "list[int]" = .ok (.list, some .integer) := by rfl
  have hlists : Property.Lists { typeName := some "list[int]" } .integer := ⟨rfl, _, rfl, hdeclared⟩
  have hplain : Property.Plain { typeName := some "list[int]" } := ⟨rfl, rfl, rfl⟩
  have hcounts : Lexer.isName "counts".toList = true := by decide
  have hint : Lexer.isName "int".toList = true := by decide
  let ev := Evaluator.withBuiltins {} .restricted
  constructor
  · obtain ⟨model, hcompile, hfree⟩ :
        ∃ model, (countsDocument "counts").compile ev = .ok model ∧ _ :=
      Document.list_free_iff (by decide) rfl (by decide) List.mem_cons_self hlists hplain
        (by simp [countsDocument]) (by simp [countsDocument]) (Lexer.quotes_of_isName hcounts)
        (ItemCheck.itemCheck_screened .restricted hcounts _) (by decide +kernel) (by decide)
    obtain ⟨pass, hrun, hiff⟩ := hfree [("counts", .list [.int 1])] [.int 1] rfl (by decide)
    refine ⟨model, hcompile, pass, hrun, hiff.mpr ?_⟩
    simp [Value.truthy, Value.hasKind?, ScalarType.name]
  · obtain ⟨model, hcompile, hfree⟩ :
        ∃ model, (countsDocument "int").compile ev = .ok model ∧ _ :=
      Document.list_free_iff (by decide) rfl (by decide) List.mem_cons_self hlists hplain
        (by simp [countsDocument]) (by simp [countsDocument]) (Lexer.quotes_of_isName hint)
        (ItemCheck.itemCheck_screened .restricted hint _) (by decide +kernel) (by decide)
    obtain ⟨pass, hrun, hiff⟩ := hfree [("int", .list [.int 1])] [.int 1] rfl (by decide)
    refine ⟨model, hcompile, pass, hrun, fun hnone => ?_⟩
    obtain ⟨_, hpasses⟩ := hiff.mp hnone
    have hone := (hpasses (.int 1) List.mem_cons_self).2
    rw [if_pos (by rfl)] at hone
    cases hone

end SchemaGuard
