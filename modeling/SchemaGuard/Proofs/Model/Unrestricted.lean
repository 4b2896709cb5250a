import SchemaGuard.Proofs.Model.Totality
import SchemaGuard.Settings

/-! # Models with an open guard

The guard decides which documents are compiled, and nothing else. A document that compiles
under some settings compiles to the same model when unsafe capabilities are allowed; only the
guards of its validators differ. No call of such a validator tells the two guards apart, and
so no pass does.
-/

namespace SchemaGuard

open Outcome

/-! ## Replacements that no call notices -/

/-- A validator stands for another one when every call of it has the outcome of the same call of
the other, and its failures are reported alike. -/
structure Validator.StandsFor (replacement validator : Validator) : Prop where
  field : replacement.field = validator.field
  mode : replacement.mode = validator.mode
  callField : ∀ value context data,
    replacement.callField value context data = validator.callField value context data
  callModel : ∀ data context,
    replacement.callModel data context = validator.callModel data context
  verdict : ∀ error, replacement.verdict error = validator.verdict error

theorem Validator.StandsFor.judge {replacement validator : Validator}
    (hstands : replacement.StandsFor validator) (value : Value) (context : Table Value)
    (data : Value) :
    replacement.judge value context data = validator.judge value context data := by
  unfold Validator.judge
  rw [hstands.callField]
  cases validator.callField value context data with
  | ok replaced => rfl
  | error error => simp only [hstands.verdict, hstands.field]

theorem Validator.Screened.standsFor {validator : Validator} (hscreened : validator.Screened) :
    (validator.withGuard .unrestricted).StandsFor validator where
  field := rfl
  mode := rfl
  callField := hscreened.callField_unrestricted
  callModel := hscreened.callModel_unrestricted
  verdict _ := rfl

section Replacement

variable {replace : Validator → Validator}

theorem Leaf.consult_mapValidators {leaf : Leaf}
    (hstands : ∀ v ∈ leaf.validator.toList, (replace v).StandsFor v) (early : Bool)
    (value : Value) (context : Table Value) (data : Value) :
    (leaf.mapValidators replace).consult early value context data =
      leaf.consult early value context data := by
  unfold Leaf.consult Leaf.mapValidators
  cases hvalidator : leaf.validator with
  | none => rfl
  | some validator =>
      have hstands := hstands validator (by simp [hvalidator])
      simp only [Option.map_some, hstands.mode, hstands.judge]

theorem Leaf.judge_mapValidators {leaf : Leaf}
    (hstands : ∀ v ∈ leaf.validator.toList, (replace v).StandsFor v) (name : String)
    (value : Value) (context : Table Value) (data : Value) :
    (leaf.mapValidators replace).judge name value context data =
      leaf.judge name value context data := by
  unfold Leaf.judge
  rw [Leaf.consult_mapValidators hstands]
  refine bind_congr rfl fun judgement _ => ?_
  cases judgement with
  | rejected errors => rfl
  | accepted value =>
      have hconform : (leaf.mapValidators replace).conform name value = leaf.conform name value :=
        rfl
      simp only [hconform, Leaf.consult_mapValidators hstands]

theorem Field.absent_mapValidators (field : Field) (name : String) :
    (field.mapValidators replace).absent name = field.absent name := by
  cases field <;> rw [Field.mapValidators] <;> rfl

namespace ModelHeader

theorem validatorAt_mapValidators {header : ModelHeader}
    (hstands : ∀ v ∈ header.validator.toList, (replace v).StandsFor v) (early : Bool) :
    (header.mapValidators replace).validatorAt early = (header.validatorAt early).map replace := by
  unfold validatorAt mapValidators
  cases hvalidator : header.validator with
  | none => rfl
  | some validator =>
      have hmode := (hstands validator (by simp [hvalidator])).mode
      by_cases hearly : validator.mode.precedesCoercion = early
      · simp [Option.filter, hmode, hearly]
      · simp [Option.filter, hmode, hearly]

theorem prepare_mapValidators {header : ModelHeader}
    (hstands : ∀ v ∈ header.validator.toList, (replace v).StandsFor v) (tag : String)
    (data : Value) :
    (header.mapValidators replace).prepare tag data = header.prepare tag data := by
  unfold prepare
  rw [validatorAt_mapValidators hstands]
  cases hvalidator : header.validatorAt true with
  | none => rfl
  | some validator =>
      have hstands := hstands validator (mem_of_validatorAt hvalidator)
      have hcall := hstands.callModel data header.context
      simp only [Option.map_some, mapValidators, hcall, hstands.verdict]

theorem conclude_mapValidators {header : ModelHeader}
    (hstands : ∀ v ∈ header.validator.toList, (replace v).StandsFor v) (tag : String)
    (pass : Pass) :
    (header.mapValidators replace).conclude tag pass = header.conclude tag pass := by
  unfold conclude
  rw [validatorAt_mapValidators hstands]
  cases hvalidator : header.validatorAt false with
  | none => rfl
  | some validator =>
      have hstands := hstands validator (mem_of_validatorAt hvalidator)
      have hcall := hstands.callModel (.dict pass.values) header.context
      simp only [Option.map_some, mapValidators, hcall, hstands.verdict]

end ModelHeader

/-! ## Passes -/

mutual

/-- Replacements that no call notices leave every pass as it is. -/
theorem Model.pass_mapValidators : ∀ (model : Model) (tag : String) (data : Value),
    (∀ v ∈ model.allValidators, (replace v).StandsFor v) →
      (model.mapValidators replace).pass tag data = model.pass tag data
  | ⟨header, fields⟩, tag, data, hstands => by
      rw [Model.allValidators, List.forall_mem_append] at hstands
      obtain ⟨hfields, hheader⟩ := hstands
      rw [Model.mapValidators, Model.pass, Model.pass, header.prepare_mapValidators hheader]
      refine bind_congr rfl fun ⟨input, opening⟩ _ => ?_
      cases input with
      | dict entries =>
          refine bind_congr ?_ fun pass _ => header.conclude_mapValidators hheader tag pass
          exact judgeAll_mapValidators fields header.context (.dict entries) entries opening hfields
      | _ => rfl
termination_by structural model => model

theorem Field.judge_mapValidators : ∀ (field : Field) (context : Table Value) (data : Value)
    (name : String) (value : Value), (∀ v ∈ field.allValidators, (replace v).StandsFor v) →
      (field.mapValidators replace).judge context data name value =
        field.judge context data name value
  | .leaf leaf, context, data, name, value, hstands => by
      rw [Field.mapValidators, Field.judge, Field.judge]
      exact Leaf.judge_mapValidators (by simpa only [Field.allValidators] using hstands) name value
        context data
  | .group model, context, data, name, value, hstands => by
      rw [Field.allValidators] at hstands
      rw [Field.mapValidators, Field.judge, Field.judge,
        Model.pass_mapValidators model wholeModel value hstands]
termination_by structural field => field

theorem judgeAll_mapValidators : ∀ (fields : List (String × Field)) (context : Table Value)
    (data : Value) (entries : Table Value) (pass : Pass),
    (∀ v ∈ Field.validatorsOfAll fields, (replace v).StandsFor v) →
      judgeAll context data entries pass (Field.mapValidatorsOfAll replace fields) =
        judgeAll context data entries pass fields
  | [], _, _, _, _, _ => by rw [Field.mapValidatorsOfAll]
  | (name, field) :: rest, context, data, entries, pass, hstands => by
      rw [Field.validatorsOfAll, List.forall_mem_append] at hstands
      obtain ⟨hfield, hrest⟩ := hstands
      have hnext (judgement : Judgement) :=
        judgeAll_mapValidators rest context data entries (pass.enter name judgement) hrest
      rw [Field.mapValidatorsOfAll, judgeAll, judgeAll]
      cases Table.get? entries name with
      | none =>
          simp only [ok_bind, Field.absent_mapValidators]
          exact hnext _
      | some value =>
          have hjudge := Field.judge_mapValidators field context data name value hfield
          exact bind_congr hjudge fun judgement _ => hnext judgement
termination_by structural fields => fields

end

end Replacement

/-! ## What a replacement keeps -/

theorem Model.name_mapValidators (replace : Validator → Validator) (model : Model) :
    (model.mapValidators replace).name = model.name := by
  obtain ⟨header, fields⟩ := model
  rw [Model.mapValidators]
  rfl

theorem Model.fieldNames_mapValidators (replace : Validator → Validator) (model : Model) :
    (model.mapValidators replace).fieldNames = model.fieldNames := by
  obtain ⟨header, fields⟩ := model
  rw [Model.mapValidators]
  induction fields with
  | nil =>
      rw [Field.mapValidatorsOfAll]
      rfl
  | cons field rest ih =>
      obtain ⟨name, field⟩ := field
      rw [Field.mapValidatorsOfAll]
      exact congrArg (name :: ·) ih

mutual

theorem Model.allValidators_mapValidators (replace : Validator → Validator) : ∀ model : Model,
    (model.mapValidators replace).allValidators = model.allValidators.map replace
  | ⟨header, fields⟩ => by
      have hheader :
          (header.validator.map replace).toList = header.validator.toList.map replace := by
        cases header.validator <;> rfl
      rw [Model.mapValidators, Model.allValidators, Model.allValidators, List.map_append,
        Field.validatorsOfAll_mapValidators replace fields, ← hheader]
      rfl
termination_by structural model => model

theorem Field.allValidators_mapValidators (replace : Validator → Validator) : ∀ field : Field,
    (field.mapValidators replace).allValidators = field.allValidators.map replace
  | .leaf leaf => by
      rw [Field.mapValidators, Field.allValidators, Field.allValidators, Leaf.mapValidators]
      cases leaf.validator <;> rfl
  | .group model => by
      rw [Field.mapValidators, Field.allValidators, Field.allValidators,
        Model.allValidators_mapValidators replace model]
termination_by structural field => field

theorem Field.validatorsOfAll_mapValidators (replace : Validator → Validator) :
    ∀ fields : List (String × Field),
      Field.validatorsOfAll (Field.mapValidatorsOfAll replace fields) =
        (Field.validatorsOfAll fields).map replace
  | [] => by
      rw [Field.mapValidatorsOfAll, Field.validatorsOfAll]
      rfl
  | (_, field) :: rest => by
      rw [Field.mapValidatorsOfAll, Field.validatorsOfAll, Field.validatorsOfAll, List.map_append,
        Field.allValidators_mapValidators replace field,
        Field.validatorsOfAll_mapValidators replace rest]
termination_by structural fields => fields

end

/-- Allowing unsafe capabilities changes nothing about a document that compiles without: it
compiles to the model with the same fields and programs, and every pass over the same input ends
with the same report and the same values. -/
theorem unrestricted_model_agrees {settings : Settings} {document : Document} {model : Model}
    (hcompile : document.compile settings.evaluator = .ok model) :
    ∃ opened, document.compile { settings with allowUnsafe := true }.evaluator = .ok opened ∧
      opened = model.mapValidators (·.withGuard .unrestricted) ∧
      opened.fieldNames = model.fieldNames ∧
      opened.allValidators.map Validator.program = model.allValidators.map Validator.program ∧
      ∀ data, ∃ pass, model.run data = .ok pass ∧ opened.run data = .ok pass := by
  have hscreened := Document.compile_screened hcompile
  have hreplaces : Property.Replaces settings.evaluator
      (settings.evaluator.withGuard .unrestricted) (·.withGuard .unrestricted) :=
    fun _ _ hrequest => Validator.compile_unrestricted hrequest
  have hopened := Document.compile_mapValidators hreplaces hcompile
  refine ⟨_, hopened, rfl, Model.fieldNames_mapValidators _ model, ?_, ?_⟩
  · rw [Model.allValidators_mapValidators, List.map_map]
    rfl
  · intro data
    obtain ⟨pass, hrun⟩ := Model.pass_ok model model.name data hscreened
    refine ⟨pass, hrun, ?_⟩
    rw [Model.run, Model.name_mapValidators, Model.pass_mapValidators model model.name data
      (fun v hv => (hscreened v hv).standsFor)]
    exact hrun

/-- The document with a trimmed city, with and without unsafe capabilities. -/
theorem addressDocument_unrestricted :
    ∃ model opened, addressDocument.compile ({} : Settings).evaluator = .ok model ∧
      addressDocument.compile ({ allowUnsafe := true } : Settings).evaluator = .ok opened ∧
      ∃ pass, model.run (.dict [("address", .dict [("city", .str " Bern ")])]) = .ok pass ∧
        opened.run (.dict [("address", .dict [("city", .str " Bern ")])]) = .ok pass := by
  obtain ⟨model, hcompile⟩ := addressDocument_compile
  have hcompile : addressDocument.compile ({} : Settings).evaluator = .ok model := hcompile
  obtain ⟨opened, hopened, _, _, _, hruns⟩ := unrestricted_model_agrees hcompile
  exact ⟨model, opened, hcompile, hopened, hruns _⟩

end SchemaGuard
