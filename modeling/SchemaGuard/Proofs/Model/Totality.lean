import SchemaGuard.Catalog
import SchemaGuard.Proofs.Model.Validators
import SchemaGuard.Proofs.Validator.Screening

/-! # Validation comes to an end with a report

A pass over the input of a compiled model never fails, whatever the input is: all that is
wrong with it becomes part of the report. A failure could only come from a validator that
uses a refused capability while it runs, and every validator of a compiled model is screened.
-/

namespace SchemaGuard

open Outcome

/-! ## Screened validators in a pass -/

theorem Validator.judge_ok {validator : Validator} (hscreened : validator.Screened)
    (value : Value) (context : Table Value) (data : Value) :
    ∃ judgement, validator.judge value context data = .ok judgement := by
  unfold Validator.judge
  split
  next replaced _ => exact ⟨.accepted replaced, rfl⟩
  next error hcall =>
    have hunrefused := hscreened.callField_unrefused value context data error hcall
    exact ⟨.rejected [⟨validator.field, error.message⟩], by
      rw [Validator.verdict_eq_ok hunrefused]
      rfl⟩

theorem Leaf.consult_ok {leaf : Leaf} (hscreened : ∀ v ∈ leaf.validator.toList, v.Screened)
    (early : Bool) (value : Value) (context : Table Value) (data : Value) :
    ∃ judgement, leaf.consult early value context data = .ok judgement := by
  unfold Leaf.consult
  split
  next validator hvalidator =>
    split
    · exact Validator.judge_ok (hscreened validator (by simp [hvalidator])) value context data
    · exact ⟨_, rfl⟩
  next => exact ⟨_, rfl⟩

theorem Leaf.judge_ok {leaf : Leaf} (hscreened : ∀ v ∈ leaf.validator.toList, v.Screened)
    (name : String) (value : Value) (context : Table Value) (data : Value) :
    ∃ judgement, leaf.judge name value context data = .ok judgement := by
  obtain ⟨early, hearly⟩ := Leaf.consult_ok hscreened true value context data
  unfold Leaf.judge
  rw [hearly, ok_bind]
  cases early with
  | rejected errors => exact ⟨_, rfl⟩
  | accepted value =>
      simp only
      cases leaf.conform name value with
      | rejected errors => exact ⟨_, rfl⟩
      | accepted value => exact Leaf.consult_ok hscreened false value context data

namespace ModelHeader

theorem mem_of_validatorAt {header : ModelHeader} {early : Bool} {validator : Validator}
    (hvalidator : header.validatorAt early = some validator) :
    validator ∈ header.validator.toList := by
  obtain ⟨hmem, _⟩ := Option.filter_eq_some_iff.mp hvalidator
  rw [hmem]
  exact List.mem_singleton_self validator

theorem prepare_ok {header : ModelHeader} (hscreened : ∀ v ∈ header.validator.toList, v.Screened)
    (tag : String) (data : Value) : ∃ prepared, header.prepare tag data = .ok prepared := by
  unfold prepare
  split
  next => exact ⟨_, rfl⟩
  next validator hvalidator =>
    have hvalidator := hscreened validator (mem_of_validatorAt hvalidator)
    split
    next => exact ⟨_, rfl⟩
    next error hcall =>
      have hunrefused := hvalidator.callModel_unrefused data header.context error hcall
      exact ⟨(data, Pass.opening.record tag error.message), by
        rw [Validator.verdict_eq_ok hunrefused]
        rfl⟩

theorem conclude_ok {header : ModelHeader} (hscreened : ∀ v ∈ header.validator.toList, v.Screened)
    (tag : String) (pass : Pass) : ∃ concluded, header.conclude tag pass = .ok concluded := by
  unfold conclude
  split
  next => exact ⟨_, rfl⟩
  next validator hvalidator =>
    have hvalidator := hscreened validator (mem_of_validatorAt hvalidator)
    split
    · exact ⟨_, rfl⟩
    · split
      next => exact ⟨_, rfl⟩
      next => exact ⟨_, rfl⟩
      next error hcall =>
        have hunrefused := hvalidator.callModel_unrefused _ header.context error hcall
        exact ⟨pass.record tag error.message, by
          rw [Validator.verdict_eq_ok hunrefused]
          rfl⟩

end ModelHeader

/-! ## Passes -/

mutual

theorem Model.pass_ok : ∀ (model : Model) (tag : String) (data : Value),
    (∀ v ∈ model.allValidators, v.Screened) → ∃ pass, model.pass tag data = .ok pass
  | ⟨header, fields⟩, tag, data, hscreened => by
      rw [Model.allValidators, List.forall_mem_append] at hscreened
      obtain ⟨hfields, hheader⟩ := hscreened
      obtain ⟨⟨input, opening⟩, hprepare⟩ := header.prepare_ok hheader tag data
      rw [Model.pass, hprepare, ok_bind]
      -- A validator that precedes coercion may have put anything in the place of the data.
      cases input with
      | dict entries =>
          obtain ⟨pass, hpass⟩ :=
            judgeAll_ok fields header.context (.dict entries) entries opening hfields
          obtain ⟨concluded, hconclude⟩ := header.conclude_ok hheader tag pass
          exact ⟨concluded, by simp only [hpass, ok_bind, hconclude]⟩
      | _ => exact ⟨_, rfl⟩
termination_by structural model => model

theorem Field.judge_ok : ∀ (field : Field) (context : Table Value) (data : Value) (name : String)
    (value : Value), (∀ v ∈ field.allValidators, v.Screened) →
      ∃ judgement, field.judge context data name value = .ok judgement
  | .leaf leaf, context, data, name, value, hscreened => by
      rw [Field.judge]
      exact Leaf.judge_ok (by simpa only [Field.allValidators] using hscreened) name value context
        data
  | .group model, context, data, name, value, hscreened => by
      rw [Field.allValidators] at hscreened
      obtain ⟨pass, hpass⟩ := Model.pass_ok model wholeModel value hscreened
      exact ⟨pass.judgement name, by rw [Field.judge, hpass]; rfl⟩
termination_by structural field => field

theorem judgeAll_ok : ∀ (fields : List (String × Field)) (context : Table Value) (data : Value)
    (entries : Table Value) (pass : Pass), (∀ v ∈ Field.validatorsOfAll fields, v.Screened) →
      ∃ judged, judgeAll context data entries pass fields = .ok judged
  | [], _, _, _, pass, _ => ⟨pass, by rw [judgeAll]⟩
  | (name, field) :: rest, context, data, entries, pass, hscreened => by
      rw [Field.validatorsOfAll, List.forall_mem_append] at hscreened
      obtain ⟨hfield, hrest⟩ := hscreened
      rw [judgeAll]
      cases Table.get? entries name with
      | none => exact judgeAll_ok rest context data entries _ hrest
      | some value =>
          obtain ⟨judgement, hjudgement⟩ := Field.judge_ok field context data name value hfield
          simp only [hjudgement, ok_bind]
          exact judgeAll_ok rest context data entries _ hrest
termination_by structural fields => fields

end

/-! ## Validation and construction -/

theorem Model.validate_ok {model : Model} {data : Value} {pass : Pass}
    (hrun : model.run data = .ok pass) :
    model.validate data = .ok ⟨model.jsonSchema, pass.report, data⟩ := by
  rw [Model.validate, hrun]
  rfl

theorem Catalog.validate_ok {catalog : Catalog} {handle : Handle} {entry : Entry} {data : Value}
    {pass : Pass} (hentry : catalog.entry handle = .ok entry)
    (hrun : entry.model.run data = .ok pass) :
    ∃ answer, catalog.validate handle data = .ok answer := by
  rw [Catalog.validate, hentry, ok_bind, Model.validate_ok hrun]
  exact ⟨_, rfl⟩

/-- An instance is made only of a pass without reports, so its construction cannot fail. -/
theorem Catalog.build_ok {catalog : Catalog} {handle : Handle} {entry : Entry} {data : Value}
    {pass : Pass} (hentry : catalog.entry handle = .ok entry)
    (hrun : entry.model.run data = .ok pass) :
    ∃ answer, catalog.build handle data = .ok answer := by
  rw [Catalog.build, hentry, ok_bind, hrun, ok_bind]
  by_cases hvalid : pass.isValid = true
  · rw [if_pos hvalid, Model.instanceOf, if_pos hvalid]
    exact ⟨_, rfl⟩
  · rw [if_neg hvalid]
    exact ⟨_, rfl⟩

theorem Document.compile_screened {ev : Evaluator} {document : Document} {model : Model}
    (hcompile : document.compile ev = .ok model) : ∀ v ∈ model.allValidators, v.Screened := by
  intro v hv
  obtain ⟨request, hrequest⟩ := Document.compile_compiled hcompile v hv
  exact Validator.screened_of_compile hrequest

/-- A document with a group whose city is trimmed before it is judged. -/
def addressDocument : Document where
  name := "Customer"
  version := "1"
  properties := [("address", {
    properties := some [("city", { typeName := some "str" })]
    validator := some (.source "city = city.strip()") })]

theorem addressDocument_compile :
    ∃ model, addressDocument.compile (.withBuiltins {} .restricted) = .ok model := by
  have hname : Text.isBlankLine addressDocument.name.toList = false := by decide
  have htype : LeafType.declared "str" = .ok (.scalar .text, none) := by cbv
  have hsource : (Evaluator.withBuiltins {} .restricted).compile "city = city.strip()" =
      .ok [.assign "city" (.call (.attr (.var "city") "strip") [])] := by
    refine Evaluator.compile_of_scan rfl (by cbv) (by cbv)
      ⟨?final, ?scan, ?read⟩ rfl
    case scan =>
      cbv
      rfl
    case read => cbv
  have hfields : ∃ fields, Property.compileAll (.withBuiltins {} .restricted) [] "Customer"
      addressDocument.properties = .ok fields := ⟨_, by
    simp only [addressDocument, Property.compileAll, Property.compile, Property.compileLeaf,
      htype, Property.readConstraints, Property.leafValidator_eq, Property.leafRequest?,
      Property.leafSources, Property.groupHeader, Property.modelValidator,
      ValidatorRequest.compile, ValidatorRequest.program, ValidatorRequest.forModel,
      ValidatorSpec.text, hsource, ok_bind, pure_eq_ok]
    rfl⟩
  obtain ⟨fields, hfields⟩ := hfields
  exact ⟨_, Document.compile_eq_ok.mpr ⟨hname, fields, none, hfields, rfl, rfl⟩⟩

end SchemaGuard
