import SchemaGuard.Model.Run
import SchemaGuard.Proofs.Model.Validators
import SchemaGuard.Proofs.Validator.Screening

/-! # Where the records of a pass come from

The report of a pass over the fields of a model holds what the fields are rejected for and
nothing else, and every record names the field that it concerns, or one inside of it.
-/

namespace SchemaGuard

open Outcome

/-- A record concerns a field when it bears the name of the field or of one inside of it. -/
def FieldError.Concerns (name : String) (error : FieldError) : Prop :=
  error.field = name ∨ ∃ inner, error.field = name ++ "." ++ inner

theorem FieldError.qualified_concerns (outer : String) (error : FieldError) :
    (error.qualified outer).Concerns outer := by
  unfold FieldError.qualified
  split
  · exact .inl rfl
  · exact .inr ⟨error.field, rfl⟩

/-- What a field is rejected for. -/
def Judgement.errors : Judgement → List FieldError
  | .accepted _ => []
  | .rejected errors => errors

theorem Pass.mem_enter {pass : Pass} {name : String} {judgement : Judgement} {error : FieldError} :
    error ∈ (pass.enter name judgement).report.errors ↔
      error ∈ pass.report.errors ∨ error ∈ judgement.errors := by
  cases judgement with
  | accepted value => simp [Pass.enter, Judgement.errors]
  | rejected errors => exact Report.mem_errors_addAll pass.report errors error

/-! ## Records of fields -/

/-- The judgement on a field of an input, which may lack it. -/
def Field.judgeIn (context : Table Value) (data : Value) (entries : Table Value) (name : String)
    (field : Field) : Except Failure Judgement :=
  match Table.get? entries name with
  | none => .ok (field.absent name)
  | some value => field.judge context data name value

theorem Field.judgeIn_leaf {context entries : Table Value} {data value : Value} {name : String}
    {leaf : Leaf} (hvalue : Table.get? entries name = some value) :
    (Field.leaf leaf).judgeIn context data entries name = leaf.judge name value context data := by
  unfold judgeIn
  rw [hvalue]
  simp only [Field.judge]

/-- A field that is a leaf and whose validator, if it has one, bears its name; or a group. -/
def Field.Named (name : String) : Field → Prop
  | .leaf inner => ∀ validator ∈ inner.validator.toList, validator.field = name
  | .group _ => True

theorem Validator.judge_field {validator : Validator} {value data : Value}
    {context : Table Value} {judgement : Judgement}
    (hjudge : validator.judge value context data = .ok judgement) :
    ∀ error ∈ judgement.errors, error.field = validator.field := by
  unfold Validator.judge at hjudge
  split at hjudge
  · cases hjudge
    simp [Judgement.errors]
  · obtain ⟨message, _, hrejected⟩ := bind_eq_ok.mp hjudge
    cases hrejected
    simp [Judgement.errors]

namespace Leaf

variable {leaf : Leaf} {name : String} {value data : Value} {context : Table Value}
  {judgement : Judgement}

theorem consult_field (hnamed : (Field.leaf leaf).Named name) {early : Bool}
    (hconsult : leaf.consult early value context data = .ok judgement) :
    ∀ error ∈ judgement.errors, error.field = name := by
  unfold consult at hconsult
  split at hconsult
  next validator hvalidator =>
    split at hconsult
    next =>
      have hfield : validator.field = name := hnamed validator (by simp [hvalidator])
      exact hfield ▸ Validator.judge_field hconsult
    next =>
      cases hconsult
      simp [Judgement.errors]
  next =>
    cases hconsult
    simp [Judgement.errors]

theorem conform_field (leaf : Leaf) (name : String) (value : Value) :
    ∀ error ∈ (leaf.conform name value).errors, error.field = name := by
  unfold conform
  split
  next => simp [Judgement.errors]
  next =>
    split
    next => simp [Judgement.errors]
    next =>
      intro error herror
      obtain ⟨message, _, rfl⟩ := List.mem_map.mp herror
      rfl

/-- Every record of a leaf bears the name of the field. -/
theorem judge_field (hnamed : (Field.leaf leaf).Named name)
    (hjudge : leaf.judge name value context data = .ok judgement) :
    ∀ error ∈ judgement.errors, error.field = name := by
  unfold judge at hjudge
  obtain ⟨early, hearly, hjudge⟩ := bind_eq_ok.mp hjudge
  split at hjudge
  next errors =>
    cases hjudge
    exact consult_field hnamed hearly
  next value =>
    have hconform := leaf.conform_field name value
    split at hjudge
    next errors hrejected =>
      cases hjudge
      rwa [hrejected] at hconform
    next => exact consult_field hnamed hjudge

theorem free_iff (hnamed : (Field.leaf leaf).Named name)
    (hjudge : leaf.judge name value context data = .ok judgement) :
    (∀ error ∈ judgement.errors, error.field ≠ name) ↔ judgement.errors = [] := by
  have hown := judge_field hnamed hjudge
  rw [List.eq_nil_iff_forall_not_mem]
  exact forall₂_congr fun error herror => by simp [hown error herror]

end Leaf

/-- Every record of a field concerns the field. -/
theorem Field.judgeIn_concerns {field : Field} {context : Table Value} {data : Value}
    {entries : Table Value} {name : String} {judgement : Judgement} (hnamed : field.Named name)
    (hjudge : field.judgeIn context data entries name = .ok judgement) :
    ∀ error ∈ judgement.errors, error.Concerns name := by
  unfold judgeIn at hjudge
  split at hjudge
  next =>
    cases hjudge
    unfold Field.absent
    split <;> simp [Judgement.errors, FieldError.Concerns]
  next value _ =>
    cases field with
    | leaf leaf =>
        rw [Field.judge] at hjudge
        exact fun error herror => .inl (Leaf.judge_field hnamed hjudge error herror)
    | group model =>
        rw [Field.judge] at hjudge
        obtain ⟨pass, _, hjudgement⟩ := bind_eq_ok.mp hjudge
        cases hjudgement
        unfold Pass.judgement
        split
        next => simp [Judgement.errors]
        next =>
          intro error herror
          obtain ⟨inner, _, rfl⟩ := List.mem_map.mp herror
          exact inner.qualified_concerns name

/-! ## Records of passes -/

theorem judgeAll_cons (context : Table Value) (data : Value) (entries : Table Value) (pass : Pass)
    (name : String) (field : Field) (rest : List (String × Field)) :
    judgeAll context data entries pass ((name, field) :: rest) =
      field.judgeIn context data entries name >>= fun judgement =>
        judgeAll context data entries (pass.enter name judgement) rest := by
  rw [judgeAll, Field.judgeIn]
  cases Table.get? entries name <;> rfl

/-- The judgement of several fields adds the records of each of them. -/
theorem mem_judgeAll {context : Table Value} {data : Value} {entries : Table Value}
    {error : FieldError} : ∀ {fields : List (String × Field)} {pass final : Pass},
      judgeAll context data entries pass fields = .ok final →
      (error ∈ final.report.errors ↔ error ∈ pass.report.errors ∨
        ∃ name field, (name, field) ∈ fields ∧ ∃ judgement,
          field.judgeIn context data entries name = .ok judgement ∧ error ∈ judgement.errors)
  | [], pass, final, hjudge => by
      rw [judgeAll] at hjudge
      cases hjudge
      simp
  | (name, field) :: rest, pass, final, hjudge => by
      rw [judgeAll_cons] at hjudge
      obtain ⟨judgement, hfirst, hrest⟩ := bind_eq_ok.mp hjudge
      rw [mem_judgeAll hrest, Pass.mem_enter]
      constructor
      · rintro ((hpass | hfound) | ⟨other, inner, hmem, hfound⟩)
        · exact .inl hpass
        · exact .inr ⟨name, field, List.mem_cons_self, judgement, hfirst, hfound⟩
        · exact .inr ⟨other, inner, List.mem_cons_of_mem _ hmem, hfound⟩
      · rintro (hpass | ⟨other, inner, hmem, found, hjudged, hfound⟩)
        · exact .inl (.inl hpass)
        · obtain heq | hmem := List.mem_cons.mp hmem
          · cases heq
            rw [hfirst] at hjudged
            cases hjudged
            exact .inl (.inr hfound)
          · exact .inr ⟨other, inner, hmem, found, hjudged, hfound⟩

/-- The report of a model without a validator of its own holds what its fields are rejected for. -/
theorem Model.mem_run {model : Model} (hvalidator : model.header.validator = none)
    {entries : Table Value} {pass : Pass} (hrun : model.run (.dict entries) = .ok pass)
    {error : FieldError} :
    error ∈ pass.report.errors ↔ ∃ name field, (name, field) ∈ model.fields ∧ ∃ judgement,
      field.judgeIn model.header.context (.dict entries) entries name = .ok judgement ∧
        error ∈ judgement.errors := by
  obtain ⟨header, fields⟩ := model
  dsimp only at hvalidator
  have hnone : ∀ early, header.validatorAt early = none := by
    simp [ModelHeader.validatorAt, hvalidator]
  rw [Model.run, Model.pass, ModelHeader.prepare, hnone] at hrun
  simp only [ok_bind, ModelHeader.conclude, hnone] at hrun
  obtain ⟨judged, hjudged, hpass⟩ := bind_eq_ok.mp hrun
  cases hpass
  rw [mem_judgeAll hjudged]
  simp [Pass.opening, Report.empty]

/-! ## Compiled fields -/

namespace Property

variable {ev : Evaluator} {context : Table Value} {owner : String}

theorem leafValidator_field {name : String} {property : Property} {itemType : Option ScalarType}
    {validator : Option Validator}
    (hcompile : leafValidator ev name property itemType = .ok validator) :
    ∀ v ∈ validator.toList, v.field = name := by
  unfold leafValidator at hcompile
  split at hcompile
  next =>
    cases hcompile
    simp
  next =>
    obtain ⟨compiled, hcompiled, hsome⟩ := bind_eq_ok.mp hcompile
    cases hsome
    obtain ⟨program, _, rfl⟩ := ValidatorRequest.compile_eq_ok.mp hcompiled
    simp [ValidatorRequest.validator, ValidatorRequest.forField]

theorem compile_named {property : Property} {name : String} {field : Field}
    (hcompile : property.compile ev context owner name = .ok field) : field.Named name := by
  obtain ⟨description, _ | typeName, _ | nested, default, constraints, validator, refusesEmpty⟩ :=
    property
  · rw [compile] at hcompile
    cases hcompile
  · obtain ⟨fields, compiled, _, _, rfl⟩ := compile_group_eq_ok.mp hcompile
    rw [Field.Named]
    exact trivial
  · obtain ⟨leaf, hleaf, rfl⟩ := compile_leaf_eq_ok.mp hcompile
    obtain ⟨_, itemType, _, compiled, _, _, hcompiled, rfl⟩ := compileLeaf_eq_ok.mp hleaf
    exact leafValidator_field hcompiled
  · rw [compile] at hcompile
    cases hcompile

theorem compileAll_mem : ∀ {properties : List (String × Property)}
    {fields : List (String × Field)}, compileAll ev context owner properties = .ok fields →
      ∀ {name : String} {property : Property}, (name, property) ∈ properties →
        ∃ field, property.compile ev context owner name = .ok field ∧ (name, field) ∈ fields
  | [], _, _, _, _, hmem => by cases hmem
  | (first, property) :: rest, fields, hcompile, name, found, hmem => by
      obtain ⟨field, others, hfield, hrest, rfl⟩ := compileAll_cons_eq_ok.mp hcompile
      obtain heq | hmem := List.mem_cons.mp hmem
      · cases heq
        exact ⟨field, hfield, List.mem_cons_self⟩
      · obtain ⟨inner, hinner, hmem⟩ := compileAll_mem hrest hmem
        exact ⟨inner, hinner, List.mem_cons_of_mem _ hmem⟩

theorem mem_compileAll : ∀ {properties : List (String × Property)}
    {fields : List (String × Field)}, compileAll ev context owner properties = .ok fields →
      ∀ {name : String} {field : Field}, (name, field) ∈ fields →
        ∃ property, (name, property) ∈ properties ∧
          property.compile ev context owner name = .ok field
  | [], _, hcompile, _, _, hmem => by
      rw [compileAll] at hcompile
      cases hcompile
      cases hmem
  | (first, property) :: rest, fields, hcompile, name, found, hmem => by
      obtain ⟨field, others, hfield, hrest, rfl⟩ := compileAll_cons_eq_ok.mp hcompile
      obtain heq | hmem := List.mem_cons.mp hmem
      · cases heq
        exact ⟨property, List.mem_cons_self, hfield⟩
      · obtain ⟨inner, hmem, hinner⟩ := mem_compileAll hrest hmem
        exact ⟨inner, List.mem_cons_of_mem _ hmem, hinner⟩

theorem compileAll_ok : ∀ {properties : List (String × Property)},
    (∀ entry ∈ properties, ∃ field, entry.2.compile ev context owner entry.1 = .ok field) →
      ∃ fields, compileAll ev context owner properties = .ok fields
  | [], _ => ⟨[], by rw [compileAll]⟩
  | (name, property) :: rest, hproperties => by
      obtain ⟨⟨field, hfield⟩, hrest⟩ := List.forall_mem_cons.mp hproperties
      obtain ⟨fields, hfields⟩ := compileAll_ok hrest
      exact ⟨_, compileAll_cons_eq_ok.mpr ⟨field, fields, hfield, hfields, rfl⟩⟩

end Property

/-- Where the name of a property is not that of one inside of another property, its field is free of
records in a report when its own judgement is. -/
theorem Document.free_iff {ev : Evaluator} {document : Document} {model : Model}
    (hcompile : document.compile ev = .ok model) (hwhole : document.validator = none)
    (hkeys : (Table.keys document.properties).Nodup) {name : String} {property : Property}
    (hproperty : (name, property) ∈ document.properties)
    (hapart : ∀ other ∈ Table.keys document.properties, other ≠ name →
      ∀ inner, name ≠ other ++ "." ++ inner)
    {field : Field} (hfield : property.compile ev document.context document.name name = .ok field)
    {entries : Table Value} {pass : Pass} (hrun : model.run (.dict entries) = .ok pass)
    {judgement : Judgement}
    (hjudge : field.judgeIn document.context (.dict entries) entries name = .ok judgement) :
    (∀ error ∈ pass.report.errors, error.field ≠ name) ↔
      ∀ error ∈ judgement.errors, error.field ≠ name := by
  obtain ⟨_, fields, validator, hfields, hvalidator, rfl⟩ := Document.compile_eq_ok.mp hcompile
  rw [hwhole] at hvalidator
  cases hvalidator
  constructor
  · intro hfree error herror
    obtain ⟨found, hfound, hmem⟩ := Property.compileAll_mem hfields hproperty
    rw [hfield] at hfound
    cases hfound
    exact hfree error ((Model.mem_run rfl hrun).mpr ⟨name, field, hmem, judgement, hjudge, herror⟩)
  · intro hfree error herror
    obtain ⟨other, inner, hmem, found, hfound, herror⟩ := (Model.mem_run rfl hrun).mp herror
    obtain ⟨stated, hstated, hinner⟩ := Property.mem_compileAll hfields hmem
    by_cases hother : other = name
    · -- There is one property of the name, and one field that it compiles to.
      cases List.inj_on_of_nodup_map hkeys hstated hproperty hother
      rw [hfield] at hinner
      cases hinner
      rw [hjudge] at hfound
      cases hfound
      exact hfree error herror
    · have hmemKeys : other ∈ Table.keys document.properties := List.mem_map_of_mem hstated
      rintro rfl
      obtain hsame | ⟨rest, hrest⟩ :=
        Field.judgeIn_concerns (Property.compile_named hinner) hfound error herror
      · exact hother hsame.symm
      · exact hapart other hmemKeys hother rest hrest

end SchemaGuard
