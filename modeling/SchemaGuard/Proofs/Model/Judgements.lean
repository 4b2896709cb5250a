import SchemaGuard.Proofs.Model.Attribution
import SchemaGuard.Proofs.Report
import SchemaGuard.Proofs.Table

/-! # A pass as the judgements on its fields

A pass over the fields of a model judges each of them, and only then is anything entered. So a
pass is known from its judgements: its report holds what fields are rejected for, and its
values are those of the accepted fields.
-/

namespace SchemaGuard

open Outcome

/-- The entry of a field in the values of a pass. -/
def Judgement.entry (name : String) : Judgement → Table Value
  | .accepted value => [(name, value)]
  | .rejected _ => []

/-- The judgements on the fields of an input in order. -/
def judgements (context : Table Value) (data : Value) (entries : Table Value) :
    List (String × Field) → Except Failure (List (String × Judgement))
  | [] => .ok []
  | (name, field) :: rest => do
      let judgement ← field.judgeIn context data entries name
      let others ← judgements context data entries rest
      pure ((name, judgement) :: others)

namespace Pass

/-- Enters judgements in order. -/
def enterAll (pass : Pass) (judged : List (String × Judgement)) : Pass :=
  judged.foldl (fun pass entry => pass.enter entry.1 entry.2) pass

theorem enter_eq (pass : Pass) (name : String) (judgement : Judgement) :
    pass.enter name judgement = ⟨pass.report.addAll judgement.errors,
      Table.insertAll pass.values (judgement.entry name)⟩ := by
  cases judgement <;> rfl

theorem enterAll_eq (pass : Pass) (judged : List (String × Judgement)) :
    pass.enterAll judged = ⟨pass.report.addAll (judged.flatMap (·.2.errors)),
      Table.insertAll pass.values (judged.flatMap fun entry => entry.2.entry entry.1)⟩ := by
  induction judged generalizing pass with
  | nil => rfl
  | cons entry rest ih =>
      change (pass.enter entry.1 entry.2).enterAll rest = _
      rw [ih, enter_eq, List.flatMap_cons, List.flatMap_cons, Report.addAll_append,
        Table.insertAll_append]

end Pass

/-- Whatever has been entered before, the judgements are the same. -/
theorem judgeAll_eq (context : Table Value) (data : Value) (entries : Table Value) :
    ∀ (fields : List (String × Field)) (pass : Pass),
      judgeAll context data entries pass fields =
        (judgements context data entries fields).map pass.enterAll
  | [], pass => by
      rw [judgeAll, judgements]
      rfl
  | (name, field) :: rest, pass => by
      rw [judgeAll_cons, judgements]
      -- A judgement does not look at the pass that it is entered into.
      cases field.judgeIn context data entries name with
      | error failure => rfl
      | ok judgement =>
          rw [ok_bind, ok_bind, judgeAll_eq context data entries rest]
          cases judgements context data entries rest <;> rfl

/-- What a model makes of a prepared input, which has to be a table. -/
def Model.passFrom (model : Model) (tag : String) (opening : Pass) : Value → Except Failure Pass
  | .dict entries => do
      let judged ← judgements model.header.context (.dict entries) entries model.fields
      model.header.conclude tag (opening.enterAll judged)
  | _ => .ok (opening.record tag notATable)

/-- A pass over a table is prepared, then its fields are judged, and then it is concluded. -/
theorem Model.pass_eq (model : Model) (tag : String) (data : Value) :
    model.pass tag data = model.header.prepare tag data >>= fun prepared =>
      model.passFrom tag prepared.2 prepared.1 := by
  obtain ⟨header, fields⟩ := model
  rw [Model.pass]
  refine bind_congr rfl fun prepared _ => ?_
  obtain ⟨input, opening⟩ := prepared
  cases input with
  | dict entries =>
      dsimp only [Model.passFrom]
      rw [judgeAll_eq]
      cases judgements header.context (.dict entries) entries fields <;> rfl
  | _ => rfl

namespace ModelHeader

theorem validatorAt_of_none {header : ModelHeader} (hvalidator : header.validator = none)
    (early : Bool) : header.validatorAt early = none := by
  rw [validatorAt, hvalidator]
  rfl

theorem validatorAt_of_some {header : ModelHeader} {validator : Validator}
    (hvalidator : header.validator = some validator) (early : Bool) :
    header.validatorAt early =
      if validator.mode.precedesCoercion = early then some validator else none := by
  rw [validatorAt, hvalidator]
  by_cases hmode : validator.mode.precedesCoercion = early
  · simp [Option.filter, hmode]
  · simp [Option.filter, hmode]

theorem prepare_of_none {header : ModelHeader} (hvalidator : header.validatorAt true = none)
    (tag : String) (data : Value) : header.prepare tag data = .ok (data, .opening) := by
  rw [prepare, hvalidator]

theorem conclude_of_none {header : ModelHeader} (hvalidator : header.validatorAt false = none)
    (tag : String) (pass : Pass) : header.conclude tag pass = .ok pass := by
  rw [conclude, hvalidator]

end ModelHeader

namespace Model

/-- Where no validator follows, the judgements on the fields are entered and that is all. -/
theorem passFrom_of_none {model : Model} (hlate : model.header.validatorAt false = none)
    (tag : String) (opening : Pass) (entries : Table Value) :
    model.passFrom tag opening (.dict entries) =
      (judgements model.header.context (.dict entries) entries model.fields).map
        opening.enterAll := by
  rw [passFrom]
  cases judgements model.header.context (.dict entries) entries model.fields with
  | error failure => rfl
  | ok judged =>
      rw [ok_bind, ModelHeader.conclude_of_none hlate]
      rfl

/-- The pass of a model without a validator of its own enters the judgements on its fields. -/
theorem pass_of_none {model : Model} (hvalidator : model.header.validator = none)
    (tag : String) (entries : Table Value) :
    model.pass tag (.dict entries) =
      (judgements model.header.context (.dict entries) entries model.fields).map
        Pass.opening.enterAll := by
  have hat (early : Bool) : model.header.validatorAt early = none :=
    ModelHeader.validatorAt_of_none hvalidator early
  rw [pass_eq, ModelHeader.prepare_of_none (hat true), ok_bind]
  exact passFrom_of_none (hat false) tag .opening entries

end Model

/-! ## Judgements that are the same -/

/-- Fields whose judgements in two inputs are the same make up the same judgements. -/
theorem judgements_congr {context : Table Value} {data data' : Value}
    {entries entries' : Table Value} {fields : List (String × Field)}
    (hfields : ∀ entry ∈ fields, entry.2.judgeIn context data entries entry.1 =
      entry.2.judgeIn context data' entries' entry.1) :
    judgements context data entries fields = judgements context data' entries' fields := by
  induction fields with
  | nil => rfl
  | cons entry rest ih =>
      obtain ⟨name, field⟩ := entry
      obtain ⟨hfield, hrest⟩ := List.forall_mem_cons.mp hfields
      rw [judgements, judgements, hfield, ih hrest]

/-- The judgements on fields are one for each of them. -/
theorem judgements_eq_ok {context : Table Value} {data : Value} {entries : Table Value}
    {fields : List (String × Field)} {judged : List (String × Judgement)} :
    judgements context data entries fields = .ok judged ↔
      List.Forall₂ (fun field entry => field.1 = entry.1 ∧
        field.2.judgeIn context data entries field.1 = .ok entry.2) fields judged := by
  induction fields generalizing judged with
  | nil =>
      rw [judgements, List.forall₂_nil_left_iff, Except.ok.injEq]
      exact eq_comm
  | cons field rest ih =>
      obtain ⟨name, field⟩ := field
      rw [judgements, bind_eq_ok, List.forall₂_cons_left_iff]
      constructor
      · rintro ⟨judgement, hjudgement, hrest⟩
        obtain ⟨others, hothers, hjudged⟩ := bind_eq_ok.mp hrest
        cases hjudged
        exact ⟨_, others, ⟨rfl, hjudgement⟩, ih.mp hothers, rfl⟩
      · rintro ⟨⟨_, judgement⟩, others, ⟨rfl, hjudgement⟩, hothers, rfl⟩
        exact ⟨judgement, hjudgement, bind_eq_ok.mpr ⟨others, ih.mpr hothers, rfl⟩⟩

theorem exists_of_mem_judgements {context : Table Value} {data : Value} {entries : Table Value}
    {fields : List (String × Field)} {judged : List (String × Judgement)}
    (hjudged : judgements context data entries fields = .ok judged) :
    ∀ entry ∈ judged, ∃ field, (entry.1, field) ∈ fields ∧
      field.judgeIn context data entries entry.1 = .ok entry.2 := by
  replace hjudged := judgements_eq_ok.mp hjudged
  induction hjudged with
  | nil => simp
  | cons hfirst _ ih =>
      obtain ⟨hname, hjudge⟩ := hfirst
      refine List.forall_mem_cons.mpr ⟨⟨_, hname ▸ List.mem_cons_self, hname ▸ hjudge⟩, ?_⟩
      intro entry hentry
      obtain ⟨field, hfield, hjudge⟩ := ih entry hentry
      exact ⟨field, List.mem_cons_of_mem _ hfield, hjudge⟩

end SchemaGuard
