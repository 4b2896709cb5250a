import SchemaGuard.Proofs.Model.Judgements
import SchemaGuard.Proofs.Model.Paths
import SchemaGuard.Proofs.Model.Totality

/-! # Faults and their records

What is wrong with the data of a model is wrong at a path: with the model as a whole, with one of
its fields, or with a field inside of a group. A pass reports all of that and nothing else, each
fault under the name that its path has in records.
-/

namespace SchemaGuard

open Outcome

namespace ModelHeader

/-- What the validator of a model says against a value in one of the two places where it may
run. -/
def Objects (header : ModelHeader) (early : Bool) (value : Value) (message : String) : Prop :=
  ∃ validator error, header.validatorAt early = some validator ∧
    validator.callModel value header.context = .error error ∧
      validator.verdict error = .ok message

/-- The input that a model judges: what a validator that precedes coercion makes of the data. -/
def input (header : ModelHeader) (data : Value) : Value :=
  match header.validatorAt true with
  | none => data
  | some validator =>
      match validator.callModel data header.context with
      | .ok replaced => replaced
      | .error _ => data

end ModelHeader

/-- What is wrong with the data of a model, and the path of the field that it is wrong with. What
is wrong with the model as a whole is at no path. -/
inductive Model.Faults : Model → Value → List String → String → Prop
  | early {model : Model} {data : Value} {message : String}
      (hobjects : model.header.Objects true data message) : Faults model data [] message
  | shape {model : Model} {data : Value}
      (hshape : ∀ entries, model.header.input data ≠ .dict entries) :
      Faults model data [] notATable
  | late {model : Model} {data : Value} {entries : Table Value} {pass : Pass} {message : String}
      (hinput : model.header.input data = .dict entries)
      (hpass : judgeAll model.header.context (.dict entries) entries .opening model.fields =
        .ok pass)
      (hclear : pass.isValid = true)
      (hobjects : model.header.Objects false (.dict pass.values) message) :
      Faults model data [] message
  | missing {model : Model} {data : Value} {entries : Table Value} {name : String} {field : Field}
      (hinput : model.header.input data = .dict entries) (hfield : (name, field) ∈ model.fields)
      (hvalue : Table.get? entries name = none) (hdefault : field.default? = none) :
      Faults model data [name] missingField
  | leaf {model : Model} {data value : Value} {entries : Table Value} {name : String} {leaf : Leaf}
      {judgement : Judgement} {error : FieldError}
      (hinput : model.header.input data = .dict entries)
      (hfield : (name, .leaf leaf) ∈ model.fields) (hvalue : Table.get? entries name = some value)
      (hjudge : leaf.judge name value model.header.context (.dict entries) = .ok judgement)
      (herror : error ∈ judgement.errors) : Faults model data [name] error.message
  | inside {model inner : Model} {data value : Value} {entries : Table Value} {name : String}
      {path : List String} {message : String} (hinput : model.header.input data = .dict entries)
      (hgroup : (name, .group inner) ∈ model.fields)
      (hvalue : Table.get? entries name = some value) (hfault : Faults inner value path message) :
      Faults model data (name :: path) message

/-- The data of a model is wrong as a whole or at a declared path. -/
theorem Model.Faults.declares {model : Model} {data : Value} {path : List String} {message : String}
    (hfault : model.Faults data path message) : path = [] ∨ model.Declares path := by
  induction hfault with
  | early => exact .inl rfl
  | shape => exact .inl rfl
  | late => exact .inl rfl
  | missing _ hfield => exact .inr (.of_mem hfield)
  | leaf _ hfield => exact .inr (.of_mem hfield)
  | inside _ hgroup _ _ ih =>
      rcases ih with rfl | hpath
      · exact .inr (.of_mem hgroup)
      · exact .inr (.inside hgroup hpath)

/-! ## Attributed models -/

/-- A model whose leaves have validators that bear their names, at every depth. -/
inductive Model.Attributed : Model → Prop
  | intro {model : Model} (hfields : ∀ entry ∈ model.fields, entry.2.Named entry.1)
      (hgroups : ∀ name inner, (name, .group inner) ∈ model.fields → Attributed inner) :
      Attributed model

namespace Property

variable {ev : Evaluator} {context : Table Value}

theorem fields_named {owner : String} {properties : List (String × Property)}
    {fields : List (String × Field)}
    (hcompile : compileAll ev context owner properties = .ok fields) :
    ∀ entry ∈ fields, entry.2.Named entry.1 := by
  rintro ⟨name, field⟩ hentry
  obtain ⟨property, _, hfield⟩ := mem_compileAll hcompile hentry
  exact compile_named hfield

mutual

theorem compile_attributed : ∀ (property : Property) (owner name : String) {inner : Model},
    property.compile ev context owner name = .ok (.group inner) → inner.Attributed
  | ⟨_, some _, some _, _, _, _, _⟩, _, _, _, hcompile => by
      rw [compile] at hcompile
      cases hcompile
  | ⟨_, none, none, _, _, _, _⟩, _, _, _, hcompile => by
      rw [compile] at hcompile
      cases hcompile
  | ⟨_, some _, none, _, _, _, _⟩, _, _, _, hcompile => by
      obtain ⟨_, _, hleaf⟩ := compile_leaf_eq_ok.mp hcompile
      cases hleaf
  | ⟨_, none, some nested, _, _, _, _⟩, _, name, _, hcompile => by
      obtain ⟨fields, validator, hfields, _, hgroup⟩ := compile_group_eq_ok.mp hcompile
      cases hgroup
      exact .intro (fields_named hfields) (compileAll_attributed nested name hfields)
termination_by structural property => property

theorem compileAll_attributed : ∀ (properties : List (String × Property)) (owner : String)
    {fields : List (String × Field)}, compileAll ev context owner properties = .ok fields →
      ∀ name inner, (name, .group inner) ∈ fields → inner.Attributed
  | [], _, _, hcompile, _, _, hmem => by
      rw [compileAll] at hcompile
      cases hcompile
      cases hmem
  | (first, property) :: rest, owner, _, hcompile, name, inner, hmem => by
      obtain ⟨field, others, hfield, hothers, rfl⟩ := compileAll_cons_eq_ok.mp hcompile
      rcases List.mem_cons.mp hmem with heq | hmem
      · cases heq
        exact compile_attributed property owner first hfield
      · exact compileAll_attributed rest owner hothers name inner hmem
termination_by structural properties => properties

end

end Property

theorem Document.compile_attributed {ev : Evaluator} {document : Document} {model : Model}
    (hcompile : document.compile ev = .ok model) : model.Attributed := by
  obtain ⟨_, fields, validator, hfields, _, rfl⟩ := Document.compile_eq_ok.mp hcompile
  exact .intro (Property.fields_named hfields) (Property.compileAll_attributed _ _ hfields)

/-! ## Records of models as a whole -/

theorem Pass.mem_record {pass : Pass} {field message : String} {error : FieldError} :
    error ∈ (pass.record field message).report.errors ↔
      error ∈ pass.report.errors ∨ error = ⟨field, message⟩ :=
  pass.report.mem_errors_add ⟨field, message⟩ error

theorem Pass.notMem_opening (error : FieldError) : error ∉ Pass.opening.report.errors := by
  simp [Pass.opening, Report.empty]

namespace ModelHeader

variable {header : ModelHeader} {early : Bool} {tag message : String} {data input : Value}
  {opening : Pass} {error : FieldError}

theorem not_objects (hnone : header.validatorAt early = none) :
    ¬ header.Objects early data message := by
  rintro ⟨validator, _, hvalidator, _⟩
  cases hnone.symm.trans hvalidator

theorem objects_iff {validator : Validator} {error : EvalError} {found : String}
    (hvalidator : header.validatorAt early = some validator)
    (hcall : validator.callModel data header.context = .error error)
    (hverdict : validator.verdict error = .ok found) :
    header.Objects early data message ↔ message = found := by
  constructor
  · rintro ⟨other, failure, hother, hfailure, hmessage⟩
    cases hvalidator.symm.trans hother
    cases hcall.symm.trans hfailure
    exact Except.ok.inj (hmessage.symm.trans hverdict)
  · rintro rfl
    exact ⟨validator, error, hvalidator, hcall, hverdict⟩

/-- A pass is opened with what a validator that precedes coercion says against the data. -/
theorem mem_of_prepare (hprepare : header.prepare tag data = .ok (input, opening)) :
    error ∈ opening.report.errors ↔
      ∃ message, header.Objects true data message ∧ error = ⟨tag, message⟩ := by
  unfold prepare at hprepare
  split at hprepare
  next hnone =>
    cases hprepare
    simp [Pass.notMem_opening, not_objects hnone]
  next validator hvalidator =>
    split at hprepare
    next replaced hcall =>
      cases hprepare
      simp [Pass.notMem_opening, Objects, hvalidator, hcall]
    next failure hcall =>
      obtain ⟨message, hverdict, hopening⟩ := bind_eq_ok.mp hprepare
      cases hopening
      simp [Pass.mem_record, Pass.notMem_opening, objects_iff hvalidator hcall hverdict]

theorem input_of_prepare (hprepare : header.prepare tag data = .ok (input, opening)) :
    input = header.input data := by
  unfold prepare at hprepare
  unfold ModelHeader.input
  cases hvalidator : header.validatorAt true with
  | none =>
      rw [hvalidator] at hprepare
      cases hprepare
      rfl
  | some validator =>
      rw [hvalidator] at hprepare
      dsimp only at hprepare ⊢
      cases hcall : validator.callModel data header.context with
      | ok replaced =>
          rw [hcall] at hprepare
          cases hprepare
          rfl
      | error failure =>
          rw [hcall] at hprepare
          obtain ⟨_, _, hopening⟩ := bind_eq_ok.mp hprepare
          cases hopening
          rfl

/-- A validator runs in one place only. -/
theorem validatorAt_early_of_late {validator : Validator}
    (hlate : header.validatorAt false = some validator) : header.validatorAt true = none := by
  cases hvalidator : header.validator with
  | none => exact validatorAt_of_none hvalidator true
  | some stated =>
      rw [validatorAt_of_some hvalidator] at hlate ⊢
      split at hlate
      next hmode => simp [hmode]
      next => cases hlate

/-- A pass is concluded with what a validator that follows coercion says against the values of a
pass without reports. -/
theorem mem_of_conclude {pass final : Pass} (hconclude : header.conclude tag pass = .ok final) :
    error ∈ final.report.errors ↔ error ∈ pass.report.errors ∨ pass.isValid = true ∧
      ∃ message, header.Objects false (.dict pass.values) message ∧ error = ⟨tag, message⟩ := by
  unfold conclude at hconclude
  split at hconclude
  next hnone =>
    cases hconclude
    simp [not_objects hnone]
  next validator hvalidator =>
    split at hconclude
    next hinvalid =>
      cases hconclude
      rw [Bool.not_eq_true'] at hinvalid
      simp [hinvalid]
    next hvalid =>
      split at hconclude
      next values hcall =>
        cases hconclude
        simp [Objects, hvalidator, hcall]
      next other _ hcall =>
        cases hconclude
        simp [Objects, hvalidator, hcall]
      next failure hcall =>
        obtain ⟨message, hverdict, hfinal⟩ := bind_eq_ok.mp hconclude
        cases hfinal
        simp only [Bool.not_eq_true', Bool.not_eq_false] at hvalid
        simp [Pass.mem_record, objects_iff hvalidator hcall hverdict, hvalid]

end ModelHeader

/-! ## Records of fields -/

theorem Field.mem_absent {field : Field} {name : String} {error : FieldError} :
    error ∈ (field.absent name).errors ↔ field.default? = none ∧ error = ⟨name, missingField⟩ := by
  unfold Field.absent
  cases field.default? with
  | none => simp [Judgement.errors]
  | some value => simp [Judgement.errors]

theorem Pass.mem_judgement {pass : Pass} {name : String} {error : FieldError} :
    error ∈ (pass.judgement name).errors ↔
      ∃ inner ∈ pass.report.errors, inner.qualified name = error := by
  unfold Pass.judgement
  split
  next hvalid =>
    have hnone : pass.report.errors = [] := by
      simpa [Pass.isValid, Report.isEmpty] using hvalid
    simp [Judgement.errors, hnone]
  next => exact List.mem_map

/-- A pass that ends has judged every field. -/
theorem judgeIn_of_judgeAll {context : Table Value} {data : Value} {entries : Table Value} :
    ∀ {fields : List (String × Field)} {pass final : Pass},
      judgeAll context data entries pass fields = .ok final → ∀ entry ∈ fields, ∃ judgement,
        entry.2.judgeIn context data entries entry.1 = .ok judgement
  | [], _, _, _ => by simp
  | (name, field) :: rest, pass, final, hjudge => by
      rw [judgeAll_cons] at hjudge
      obtain ⟨judgement, hfirst, hrest⟩ := bind_eq_ok.mp hjudge
      exact List.forall_mem_cons.mpr ⟨⟨judgement, hfirst⟩, judgeIn_of_judgeAll hrest⟩

/-- A model whose passes report its faults and nothing else. -/
def Model.ReportsFaults (model : Model) : Prop :=
  ∀ {tag : String} {data : Value} {pass : Pass}, model.pass tag data = .ok pass →
    ∀ error, error ∈ pass.report.errors ↔
      ∃ path message, model.Faults data path message ∧ error = ⟨recordName tag path, message⟩

section

variable {model : Model} {data : Value} {entries : Table Value}

/-- What a field is rejected for is wrong with the field or inside of it. -/
theorem Model.faults_of_judgeIn (tag : String) {name : String} {field : Field} {judgement : Judgement}
    {error : FieldError} (hinput : model.header.input data = .dict entries)
    (hfield : (name, field) ∈ model.fields) (hnamed : field.Named name)
    (hgroup : ∀ inner, field = .group inner → inner.ReportsFaults)
    (hjudge : field.judgeIn model.header.context (.dict entries) entries name = .ok judgement)
    (herror : error ∈ judgement.errors) :
    ∃ path message, model.Faults data (name :: path) message ∧
      error = ⟨recordName tag (name :: path), message⟩ := by
  unfold Field.judgeIn at hjudge
  split at hjudge
  next hvalue =>
    cases hjudge
    obtain ⟨hdefault, rfl⟩ := Field.mem_absent.mp herror
    exact ⟨[], _, .missing hinput hfield hvalue hdefault, by rw [recordName_singleton]⟩
  next value hvalue =>
    cases field with
    | leaf leaf =>
        rw [Field.judge] at hjudge
        have hown := Leaf.judge_field hnamed hjudge error herror
        exact ⟨[], _, .leaf hinput hfield hvalue hjudge herror, by
          rw [recordName_singleton, ← hown]⟩
    | group inner =>
        rw [Field.judge] at hjudge
        obtain ⟨pass, hpass, hjudgement⟩ := bind_eq_ok.mp hjudge
        cases hjudgement
        obtain ⟨found, hfound, rfl⟩ := Pass.mem_judgement.mp herror
        obtain ⟨path, message, hfault, rfl⟩ := (hgroup inner rfl hpass found).mp hfound
        exact ⟨path, message, .inside hinput hfield hvalue hfault, FieldError.qualified_eq _ _⟩

/-- What is wrong with a field or inside of it is reported when the fields are judged. -/
theorem Model.Faults.mem_judgeAll {tag name : String} {path : List String} {message : String}
    {pass final : Pass} (hfault : model.Faults data (name :: path) message)
    (hinput : model.header.input data = .dict entries)
    (hgroups : ∀ name inner, (name, .group inner) ∈ model.fields → inner.ReportsFaults)
    (hnamed : ∀ entry ∈ model.fields, entry.2.Named entry.1)
    (hjudge : judgeAll model.header.context (.dict entries) entries pass model.fields =
      .ok final) :
    ⟨recordName tag (name :: path), message⟩ ∈ final.report.errors := by
  apply (SchemaGuard.mem_judgeAll hjudge).mpr
  right
  cases hfault with
  | missing hentries hfield hvalue hdefault =>
      cases hinput.symm.trans hentries
      refine ⟨name, _, hfield, _, by rw [Field.judgeIn, hvalue], Field.mem_absent.mpr ?_⟩
      rw [recordName_singleton]
      exact ⟨hdefault, rfl⟩
  | @leaf _ _ _ _ _ inner judgement error hentries hfield hvalue hleaf herror =>
      cases hinput.symm.trans hentries
      refine ⟨name, _, hfield, judgement, by rw [Field.judgeIn_leaf hvalue, hleaf], ?_⟩
      have hown : error.field = name := Leaf.judge_field (hnamed _ hfield) hleaf error herror
      rwa [recordName_singleton, ← hown]
  | @inside _ inner _ value _ _ _ _ hentries hfield hvalue hinside =>
      cases hinput.symm.trans hentries
      obtain ⟨judgement, hjudged⟩ := judgeIn_of_judgeAll hjudge _ hfield
      refine ⟨name, _, hfield, judgement, hjudged, ?_⟩
      rw [Field.judgeIn, hvalue] at hjudged
      simp only [Field.judge] at hjudged
      obtain ⟨nested, hnested, hjudgement⟩ := bind_eq_ok.mp hjudged
      cases hjudgement
      have hfound := (hgroups name inner hfield hnested _).mpr ⟨path, message, hinside, rfl⟩
      exact Pass.mem_judgement.mpr ⟨_, hfound, FieldError.qualified_eq _ _⟩

end

/-! ## Records of passes -/

/-- A pass that ends has judged the fields of a table, or has found that the input is none. -/
theorem Model.pass_cases {model : Model} {tag : String} {data : Value} {final : Pass}
    (hpass : model.pass tag data = .ok final) :
    ∃ opening, model.header.prepare tag data = .ok (model.header.input data, opening) ∧
      ((∃ entries pass, model.header.input data = .dict entries ∧
          judgeAll model.header.context (.dict entries) entries opening model.fields = .ok pass ∧
            model.header.conclude tag pass = .ok final) ∨
        (∀ entries, model.header.input data ≠ .dict entries) ∧
          final = opening.record tag notATable) := by
  obtain ⟨header, fields⟩ := model
  rw [Model.pass] at hpass
  obtain ⟨⟨input, opening⟩, hprepare, hpass⟩ := bind_eq_ok.mp hpass
  obtain rfl := ModelHeader.input_of_prepare hprepare
  refine ⟨opening, hprepare, ?_⟩
  dsimp only at hpass ⊢
  cases hinput : header.input data with
  | dict entries =>
      rw [hinput] at hpass
      obtain ⟨pass, hjudge, hconclude⟩ := bind_eq_ok.mp hpass
      exact .inl ⟨entries, pass, rfl, hjudge, hconclude⟩
  | _ =>
      rw [hinput] at hpass
      cases hpass
      exact .inr ⟨by simp, rfl⟩

/-- Where a validator follows coercion, a pass is opened without reports. -/
theorem ModelHeader.opening_of_objects {header : ModelHeader} {tag message : String}
    {data input value : Value} {opening : Pass} (hobjects : header.Objects false value message)
    (hprepare : header.prepare tag data = .ok (input, opening)) : opening = .opening := by
  obtain ⟨validator, _, hvalidator, _⟩ := hobjects
  rw [prepare_of_none (validatorAt_early_of_late hvalidator)] at hprepare
  cases hprepare
  rfl

/-- What is wrong with an input that is no table is wrong with the model as a whole. -/
theorem Model.faults_of_not_dict {model : Model} {data : Value} {path : List String}
    {message : String} (hshape : ∀ entries, model.header.input data ≠ .dict entries) :
    model.Faults data path message ↔
      path = [] ∧ (model.header.Objects true data message ∨ message = notATable) := by
  constructor
  · intro hfault
    cases hfault with
    | early hobjects => exact ⟨rfl, .inl hobjects⟩
    | shape => exact ⟨rfl, .inr rfl⟩
    | late hinput => exact absurd hinput (hshape _)
    | missing hinput => exact absurd hinput (hshape _)
    | leaf hinput => exact absurd hinput (hshape _)
    | inside hinput => exact absurd hinput (hshape _)
  · rintro ⟨rfl, hobjects | rfl⟩
    · exact .early hobjects
    · exact .shape hshape

/-- What is wrong with a model as a whole is what its validator says, before its fields are judged
or after that. -/
theorem Model.faults_nil {model : Model} {tag : String} {data : Value} {entries : Table Value}
    {opening pass : Pass} {message : String}
    (hprepare : model.header.prepare tag data = .ok (model.header.input data, opening))
    (hinput : model.header.input data = .dict entries)
    (hjudge : judgeAll model.header.context (.dict entries) entries opening model.fields =
      .ok pass) :
    model.Faults data [] message ↔ model.header.Objects true data message ∨
      pass.isValid = true ∧ model.header.Objects false (.dict pass.values) message := by
  constructor
  · intro hfault
    cases hfault with
    | early hobjects => exact .inl hobjects
    | shape hshape => exact absurd hinput (hshape entries)
    | late hentries hopened hclear hobjects =>
        cases hinput.symm.trans hentries
        obtain rfl := ModelHeader.opening_of_objects hobjects hprepare
        cases hjudge.symm.trans hopened
        exact .inr ⟨hclear, hobjects⟩
  · rintro (hobjects | ⟨hclear, hobjects⟩)
    · exact .early hobjects
    · obtain rfl := ModelHeader.opening_of_objects hobjects hprepare
      exact .late hinput hjudge hclear hobjects

/-- A pass over an attributed model reports everything that is wrong with its data, and nothing
else. -/
theorem Model.Attributed.reportsFaults {model : Model} (hattributed : model.Attributed) :
    model.ReportsFaults := by
  induction hattributed with
  | @intro model hnamed _ hgroups =>
      intro tag data final hpass error
      obtain ⟨opening, hprepare, hdict | ⟨hshape, rfl⟩⟩ := model.pass_cases hpass
      · obtain ⟨entries, pass, hinput, hjudge, hconclude⟩ := hdict
        have hown (message : String) : model.Faults data [] message ↔ _ :=
          faults_nil hprepare hinput hjudge
        rw [ModelHeader.mem_of_conclude hconclude, mem_judgeAll hjudge,
          ModelHeader.mem_of_prepare hprepare]
        constructor
        · rintro ((⟨message, hobjects, rfl⟩ | hfield) | ⟨hclear, message, hobjects, rfl⟩)
          · exact ⟨[], message, (hown message).mpr (.inl hobjects), rfl⟩
          · obtain ⟨name, field, hfield, judgement, hjudgement, herror⟩ := hfield
            obtain ⟨path, message, hfault, rfl⟩ := faults_of_judgeIn tag hinput hfield
              (hnamed _ hfield) (fun inner hinner => hgroups name inner (hinner ▸ hfield))
              hjudgement herror
            exact ⟨name :: path, message, hfault, rfl⟩
          · exact ⟨[], message, (hown message).mpr (.inr ⟨hclear, hobjects⟩), rfl⟩
        · rintro ⟨path, message, hfault, rfl⟩
          cases path with
          | cons name path =>
              rw [← ModelHeader.mem_of_prepare hprepare, ← mem_judgeAll hjudge]
              exact .inl (hfault.mem_judgeAll hinput hgroups hnamed hjudge)
          | nil =>
              rcases (hown message).mp hfault with hobjects | ⟨hclear, hobjects⟩
              · exact .inl (.inl ⟨message, hobjects, rfl⟩)
              · exact .inr ⟨hclear, message, hobjects, rfl⟩
      · rw [Pass.mem_record, ModelHeader.mem_of_prepare hprepare]
        constructor
        · rintro (⟨message, hobjects, rfl⟩ | rfl)
          · exact ⟨[], message, .early hobjects, rfl⟩
          · exact ⟨[], notATable, .shape hshape, rfl⟩
        · rintro ⟨path, message, hfault, rfl⟩
          rcases (faults_of_not_dict hshape).mp hfault with ⟨rfl, hobjects | rfl⟩
          · exact .inl ⟨message, hobjects, rfl⟩
          · exact .inr rfl

/-- Every record of a run bears the name of the model or of a declared path. What is wrong at a path,
with a field or with a group as a whole, is reported under the name of that path, except that a
field inside of a group that has the name of whole models is taken for the group. -/
theorem Document.records_at_declared_paths {ev : Evaluator} {document : Document} {model : Model}
    (hcompile : document.compile ev = .ok model) {data : Value} {pass : Pass}
    (hrun : model.run data = .ok pass) :
    (∀ error ∈ pass.report.errors, error.field = model.name ∨
      ∃ path, model.Declares path ∧ error.field = pathName path) ∧
    ∀ path message, path ≠ [] → model.Faults data path message →
      ⟨pathName (reportedPath path), message⟩ ∈ pass.report.errors ∧
        (reportedPath path = path ↔ path.tail.getLast? ≠ some wholeModel) := by
  have hreports := (Document.compile_attributed hcompile).reportsFaults hrun
  constructor
  · intro error herror
    obtain ⟨path, message, hfault, rfl⟩ := (hreports error).mp herror
    rcases hfault.declares with rfl | hpath
    · exact .inl rfl
    · right
      cases path with
      | nil => exact absurd rfl hpath.ne_nil
      | cons name path =>
          exact ⟨_, hpath.reported, recordName_eq_pathName model.name name path⟩
  · intro path message hpath hfault
    refine ⟨?_, reportedPath_eq_self_iff path⟩
    cases path with
    | nil => exact absurd rfl hpath
    | cons name path =>
        rw [← recordName_eq_pathName model.name]
        exact (hreports _).mpr ⟨name :: path, message, hfault, rfl⟩

/-- A group that the input lacks is missed under its own name. -/
theorem addressDocument_lacks_address :
    ∃ model, addressDocument.compile (.withBuiltins {} .restricted) = .ok model ∧
      ∃ pass, model.run (.dict []) = .ok pass ∧
        ⟨"address", missingField⟩ ∈ pass.report.errors := by
  obtain ⟨model, hcompile⟩ := addressDocument_compile
  obtain ⟨pass, hrun⟩ :=
    Model.pass_ok model model.name (.dict []) (Document.compile_screened hcompile)
  refine ⟨model, hcompile, pass, hrun, ?_⟩
  have hrecords := (Document.records_at_declared_paths hcompile hrun).2
  obtain ⟨_, fields, validator, hfields, hvalidator, rfl⟩ := Document.compile_eq_ok.mp hcompile
  cases hvalidator
  obtain ⟨field, hfield, hmem⟩ :=
    Property.compileAll_mem hfields (List.mem_singleton_self (α := String × Property) _)
  obtain ⟨_, _, _, _, rfl⟩ := Property.compile_group_eq_ok.mp hfield
  exact (hrecords ["address"] _ (by simp) (.missing rfl hmem rfl rfl)).1

end SchemaGuard
