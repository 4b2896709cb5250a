import SchemaGuard.Proofs.Model.Judgements
import SchemaGuard.Proofs.Model.Totality
import SchemaGuard.Proofs.Validator.Blindness

/-! # Every field on its own

As long as its validator does not read the record of its call, the judgement on a field depends
on the value of the field and on nothing else in the input. So a pass is made up of passes over
one field each, and a validator of the model that precedes coercion and fails adds its record
and changes nothing.
-/

namespace SchemaGuard

open Outcome

/-! ## Judgements on values -/

/-- A field that has no validator of its own, or one that does not read the record of its call. -/
def Field.IgnoresRecord (field : Field) : Prop :=
  ∀ validator, field.validator? = some validator → ¬ validator.program.Reads "info"

theorem Validator.judge_anywhere {validator : Validator}
    (hinfo : ¬ validator.program.Reads "info") (value : Value) (context : Table Value)
    (data data' : Value) :
    validator.judge value context data = validator.judge value context data' := by
  unfold Validator.judge
  rw [callField_anywhere hinfo value context data data']

theorem Leaf.judge_anywhere {leaf : Leaf} (hinfo : (Field.leaf leaf).IgnoresRecord)
    (name : String) (value : Value) (context : Table Value) (data data' : Value) :
    leaf.judge name value context data = leaf.judge name value context data' := by
  have hconsult (early : Bool) (value : Value) :
      leaf.consult early value context data = leaf.consult early value context data' := by
    unfold consult
    cases hvalidator : leaf.validator with
    | none => rfl
    | some validator =>
        have hjudge :=
          Validator.judge_anywhere (hinfo validator hvalidator) value context data data'
        simp only [hjudge]
  unfold judge
  simp only [hconsult]

/-- The judgement on a field depends on what is bound to its name. -/
theorem Field.judgeIn_congr {field : Field} (hinfo : field.IgnoresRecord) {name : String}
    {entries entries' : Table Value} (context : Table Value) (data data' : Value)
    (hsame : Table.get? entries name = Table.get? entries' name) :
    field.judgeIn context data entries name = field.judgeIn context data' entries' name := by
  unfold judgeIn
  rw [hsame]
  cases Table.get? entries' name with
  | none => rfl
  | some value =>
      cases field with
      | leaf leaf =>
          simp only [Field.judge]
          exact Leaf.judge_anywhere hinfo name value context data data'
      | group model => simp only [Field.judge]

/-! ## Passes over single fields -/

namespace Model

/-- The model with one field alone, and without a validator of its own. -/
def only (model : Model) (name : String) (field : Field) : Model :=
  ⟨{ model.header with validator := none }, [(name, field)]⟩

/-- The model with a validator of its own. -/
def validatedBy (model : Model) (validator : Validator) : Model :=
  ⟨{ model.header with validator := some validator }, model.fields⟩

/-- A pass over a field alone enters the judgement that the field has in the whole input. -/
theorem run_only {model : Model} {name : String} {field : Field} (hinfo : field.IgnoresRecord)
    {entries : Table Value} {judgement : Judgement}
    (hjudge : field.judgeIn model.header.context (.dict entries) entries name = .ok judgement) :
    (model.only name field).run (.dict (Table.only entries name)) =
      .ok (Pass.opening.enter name judgement) := by
  have halone : field.judgeIn model.header.context (.dict (Table.only entries name))
      (Table.only entries name) name = .ok judgement := by
    rw [← hjudge]
    exact Field.judgeIn_congr hinfo _ _ _ (Table.get?_only entries name)
  have hjudged : judgements model.header.context (.dict (Table.only entries name))
      (Table.only entries name) [(name, field)] = .ok [(name, judgement)] := by
    rw [judgements, halone, judgements]
    rfl
  rw [run, Model.pass_of_none rfl]
  exact congrArg (Except.map Pass.opening.enterAll) hjudged

/-- A validator that precedes coercion and fails adds a record to the pass of a model that has none
and leaves the rest as it is. -/
theorem run_validatedBy {model : Model} {validator : Validator} {entries : Table Value}
    {error : EvalError} (hmode : validator.mode.precedesCoercion = true)
    (hcall : validator.callModel (.dict entries) model.header.context = .error error)
    (herror : error.isForbidden = false) :
    (model.validatedBy validator).run (.dict entries) =
      (judgements model.header.context (.dict entries) entries model.fields).map
        (Pass.opening.record model.name error.message).enterAll := by
  have hat (early : Bool) : (model.validatedBy validator).header.validatorAt early =
      if true = early then some validator else none := by
    rw [ModelHeader.validatorAt_of_some rfl, hmode]
  have hverdict : validator.verdict error = .ok error.message := by
    cases error with
    | forbidden capability => cases herror
    | _ => rfl
  have hprepare (tag : String) :
      (model.validatedBy validator).header.prepare tag (.dict entries) =
        .ok (.dict entries, Pass.opening.record tag error.message) := by
    have hcall' : validator.callModel (.dict entries)
        (model.validatedBy validator).header.context = .error error := hcall
    rw [ModelHeader.prepare, hat true, if_pos rfl]
    simp only [hcall', hverdict, ok_bind, pure_eq_ok]
  have hlate : (model.validatedBy validator).header.validatorAt false = none := by
    rw [hat]
    rfl
  rw [run, Model.pass_eq, hprepare, ok_bind]
  exact Model.passFrom_of_none hlate _ _ entries

end Model

/-- The passes that are made over single fields. -/
def singlePasses (judged : List (String × Judgement)) : List Pass :=
  judged.map fun entry => Pass.opening.enter entry.1 entry.2

theorem singlePasses_report (judged : List (String × Judgement)) (first : List FieldError) :
    (Report.ofList (first ++ judged.flatMap (·.2.errors))).errors =
      (first ++ (singlePasses judged).flatMap (·.report.errors)).eraseDups := by
  have hparts : (singlePasses judged).flatMap (·.report.errors) =
      judged.flatMap fun entry => (Report.ofList entry.2.errors).errors := by
    simp only [singlePasses, List.flatMap_map, Pass.enter_eq]
    rfl
  rw [hparts, ← Report.errors_ofList]
  unfold Report.ofList
  rw [Report.addAll_append, Report.addAll_append]
  exact congrArg Report.errors (Report.addAll_flatMap _ judged fun entry => entry.2.errors).symm

theorem singlePasses_values (judged : List (String × Judgement)) :
    (singlePasses judged).flatMap (·.values) =
      judged.flatMap fun entry => entry.2.entry entry.1 := by
  have hentry (entry : String × Judgement) :
      (Pass.opening.enter entry.1 entry.2).values = entry.2.entry entry.1 := by
    rw [Pass.enter_eq]
    cases entry.2 <;> rfl
  simp only [singlePasses, List.flatMap_map, hentry]

/-- Where a document states no validator for the whole, and no validator of its own fields reads the
record of its call, every field is judged as if it were alone: the records of a pass are those of
the passes over one field each, in order and without repetitions, and its values are theirs. A
validator for the whole that precedes coercion and fails comes first with its record, and nothing
else changes. -/
theorem Document.fields_judged_alone {ev : Evaluator} {document : Document} {model : Model}
    (hcompile : document.compile ev = .ok model) (hwhole : document.validator = none)
    (hinfo : ∀ entry ∈ model.fields, entry.2.IgnoresRecord) (entries : Table Value) :
    ∃ passes, List.Forall₂ (fun entry pass =>
        (model.only entry.1 entry.2).run (.dict (Table.only entries entry.1)) = .ok pass)
        model.fields passes ∧
      (∃ pass, model.run (.dict entries) = .ok pass ∧
        pass.report.errors = (passes.flatMap (·.report.errors)).eraseDups ∧
        pass.values = Table.ofPairs (passes.flatMap (·.values))) ∧
      ∀ validator error, validator.mode.precedesCoercion = true →
        validator.callModel (.dict entries) model.header.context = .error error →
        error.isForbidden = false →
          ∃ pass, (model.validatedBy validator).run (.dict entries) = .ok pass ∧
            pass.report.errors =
              (⟨model.name, error.message⟩ :: passes.flatMap (·.report.errors)).eraseDups ∧
            pass.values = Table.ofPairs (passes.flatMap (·.values)) := by
  have hnone : model.header.validator = none := by
    obtain ⟨_, fields, validator, _, hvalidator, rfl⟩ := Document.compile_eq_ok.mp hcompile
    rw [hwhole] at hvalidator
    cases hvalidator
    rfl
  obtain ⟨pass, hrun⟩ :=
    Model.pass_ok model model.name (.dict entries) (Document.compile_screened hcompile)
  rw [Model.pass_of_none hnone] at hrun
  -- What every field is judged with in the whole input decides all of the passes in question.
  obtain ⟨judged, hjudged, _⟩ := map_eq_ok.mp hrun
  have halone := judgements_eq_ok.mp hjudged
  refine ⟨singlePasses judged, ?_, ?_, ?_⟩
  · have hboth := (List.forall₂_and_left _ _).mpr ⟨hinfo, halone⟩
    refine List.forall₂_map_right_iff.mpr (hboth.imp fun entry found hfound => ?_)
    obtain ⟨hignores, hname, hjudge⟩ := hfound
    rw [← hname]
    exact Model.run_only hignores hjudge
  · refine ⟨Pass.opening.enterAll judged, ?_, ?_, ?_⟩
    · rw [Model.run, Model.pass_of_none hnone, hjudged]
      rfl
    · rw [Pass.enterAll_eq]
      exact singlePasses_report judged []
    · rw [Pass.enterAll_eq, singlePasses_values]
      rfl
  · intro validator error hmode hcall herror
    refine ⟨(Pass.opening.record model.name error.message).enterAll judged, ?_, ?_, ?_⟩
    · rw [Model.run_validatedBy hmode hcall herror, hjudged]
      rfl
    · rw [Pass.enterAll_eq]
      exact singlePasses_report judged [⟨model.name, error.message⟩]
    · rw [Pass.enterAll_eq, singlePasses_values]
      rfl

/-- The evaluator with the default limits and the restricted guard. -/
def defaultEvaluator : Evaluator :=
  .withBuiltins {} .restricted

/-- A request for a validator that refuses the young. -/
def ageRequest : ValidatorRequest :=
  .forField "age" "assert value >= 18, 'too young'" .after true

/-- The validator that the request compiles to. -/
def ageValidator : Validator :=
  ageRequest.validator defaultEvaluator (ValidatorRequest.refusal ++
    [.assert (.compare (.var "value") [(.greaterOrEqual, .int 18)]) (some (.str "too young"))])

/-- An integer that has the validator. -/
def ageProperty : Property where
  typeName := some "int"
  validator := some (.source ageRequest.source)

/-- A document with a text and the integer. -/
def memberDocument : Document where
  name := "Member"
  version := "1"
  properties := [("nickname", { typeName := some "str" }), ("age", ageProperty)]

/-- The fields that the properties compile to. -/
def memberFields : List (String × Field) := [
  ("nickname", .leaf ⟨"", .scalar .text, none, none, [], none⟩),
  ("age", .leaf ⟨"", .scalar .integer, none, none, [], some ageValidator⟩)]

theorem ageRequest_compile : ageRequest.compile defaultEvaluator = .ok ageValidator := by
  have hsource : defaultEvaluator.compile ageRequest.source =
      .ok [.assert (.compare (.var "value") [(.greaterOrEqual, .int 18)])
        (some (.str "too young"))] := by
    refine Evaluator.compile_of_scan rfl (by cbv) (by cbv)
      ⟨?final, ?scan, ?read⟩ rfl
    case scan =>
      cbv
      rfl
    case read => cbv
  exact ValidatorRequest.compile_eq_ok.mpr ⟨_, ValidatorRequest.program_eq_ok.mpr
    ⟨_, _, hsource, ValidatorRequest.parse_refusalOfEmpty, rfl⟩, rfl⟩

theorem memberFields_compile :
    Property.compileAll defaultEvaluator [] "Member" memberDocument.properties =
      .ok memberFields := by
  have htext : LeafType.declared "str" = .ok (.scalar .text, none) := by cbv
  have hinteger : LeafType.declared "int" = .ok (.scalar .integer, none) := by cbv
  have hdedent : String.ofList (Text.dedent ageRequest.source.toList) = ageRequest.source := by
    cbv
  have hrequest : Property.leafRequest? "age" ageProperty none =
      some { ageRequest with
        source := String.ofList (Text.dedent ageRequest.source.toList) } := by
    rfl
  have hvalidator : Property.leafValidator defaultEvaluator "age" ageProperty none =
      .ok (some ageValidator) := by
    rw [Property.leafValidator_eq, hrequest, hdedent]
    exact map_eq_ok.mpr ⟨_, ageRequest_compile, rfl⟩
  have hnickname : Property.compileLeaf defaultEvaluator "Member" "nickname"
      { typeName := some "str" } "str" = .ok ⟨"", .scalar .text, none, none, [], none⟩ :=
    Property.compileLeaf_eq_ok.mpr ⟨_, _, [], none, htext, rfl, rfl, rfl⟩
  have hage : Property.compileLeaf defaultEvaluator "Member" "age" ageProperty "int" =
      .ok ⟨"", .scalar .integer, none, none, [], some ageValidator⟩ :=
    Property.compileLeaf_eq_ok.mpr ⟨_, _, [], _, hinteger, rfl, hvalidator, rfl⟩
  rw [ageProperty] at hage
  simp only [memberDocument, ageProperty, memberFields, Property.compileAll, Property.compile,
    hnickname, hage, ok_bind, pure_eq_ok]

/-- A request for a validator of the whole that trims the nickname. -/
def nicknameRequest : ValidatorRequest :=
  .forModel "validate_member" "nickname = nickname.strip()" .before

/-- The validator that the request compiles to. -/
def nicknameValidator : Validator :=
  nicknameRequest.validator defaultEvaluator
    [.assign "nickname" (.call (.attr (.var "nickname") "strip") [])]

theorem nicknameSource_compile : defaultEvaluator.compile nicknameRequest.source =
    .ok [.assign "nickname" (.call (.attr (.var "nickname") "strip") [])] := by
  refine Evaluator.compile_of_scan rfl (by cbv) (by cbv)
    ⟨?final, ?scan, ?read⟩ rfl
  case scan =>
    cbv
    rfl
  case read => cbv

/-- Without a nickname the validator of the whole fails, and both fields are judged all the same. -/
theorem memberDocument_judged_alone :
    ∃ model, memberDocument.compile defaultEvaluator = .ok model ∧
      ∃ pass, (model.validatedBy nicknameValidator).run (.dict [("age", .int 7)]) = .ok pass ∧
        pass.report.errors = [⟨"Member", "Undefined variable 'nickname'"⟩,
          ⟨"nickname", missingField⟩, ⟨"age", "too young"⟩] := by
  have hcompile : memberDocument.compile defaultEvaluator =
      .ok ⟨⟨"Member", "1", "", [], none⟩, memberFields⟩ :=
    Document.compile_eq_ok.mpr ⟨by decide, _, none, memberFields_compile, rfl, rfl⟩
  have hinfo : ∀ entry ∈ memberFields, entry.2.IgnoresRecord := by
    have hage : ¬ ageValidator.program.Reads "info" := by decide
    simpa [memberFields, Field.IgnoresRecord, Field.validator?] using hage
  have hcall : nicknameValidator.callModel (.dict [("age", .int 7)]) [] =
      .error (.undefinedVariable "nickname") := rfl
  obtain ⟨passes, hpasses, _, hfails⟩ :=
    Document.fields_judged_alone hcompile rfl hinfo [("age", .int 7)]
  obtain ⟨pass, hrun, herrors, _⟩ := hfails nicknameValidator _ rfl hcall rfl
  refine ⟨_, hcompile, pass, hrun, ?_⟩
  obtain ⟨nickname, _, hnickname, hothers, rfl⟩ := List.forall₂_cons_left_iff.mp hpasses
  obtain ⟨age, _, hage, hnone, rfl⟩ := List.forall₂_cons_left_iff.mp hothers
  obtain rfl := List.forall₂_nil_left_iff.mp hnone
  cases hnickname
  cases hage
  rw [herrors]
  rfl

end SchemaGuard
