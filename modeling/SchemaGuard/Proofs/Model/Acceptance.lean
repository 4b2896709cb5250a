import SchemaGuard.Proofs.Model.Judgements

/-! # Passes without reports

A field that is not accepted is rejected for a reason. So a pass reports nothing exactly when no
validator of the model fails, its input is a table, and every field is accepted; its values
are then those that the fields are accepted with, in the order of the fields.
-/

namespace SchemaGuard

open Outcome

/-! ## Reasons -/

/-- A judgement that gives a reason when it rejects. -/
def Judgement.Reasoned : Judgement → Prop
  | .accepted _ => True
  | .rejected errors => errors ≠ []

theorem Judgement.Reasoned.accepted {judgement : Judgement} (hreasoned : judgement.Reasoned)
    (herrors : judgement.errors = []) : ∃ value, judgement = .accepted value := by
  cases judgement with
  | accepted value => exact ⟨value, rfl⟩
  | rejected errors => exact absurd herrors hreasoned

theorem Validator.judge_reasoned (validator : Validator) (value : Value) (context : Table Value)
    (data : Value) : Yields Judgement.Reasoned (validator.judge value context data) := by
  unfold Validator.judge
  split
  next => exact (Yields.ok_iff _).mpr trivial
  next => exact Yields.bind fun _ _ => (Yields.ok_iff _).mpr (List.cons_ne_nil _ _)

namespace Leaf

theorem consult_reasoned (leaf : Leaf) (early : Bool) (value : Value) (context : Table Value)
    (data : Value) : Yields Judgement.Reasoned (leaf.consult early value context data) := by
  unfold consult
  split
  next validator _ =>
    split
    next => exact validator.judge_reasoned value context data
    next => exact (Yields.ok_iff _).mpr trivial
  next => exact (Yields.ok_iff _).mpr trivial

theorem conform_reasoned (leaf : Leaf) (name : String) (value : Value) :
    (leaf.conform name value).Reasoned := by
  unfold conform
  split
  next => exact List.cons_ne_nil _ _
  next coerced _ =>
    split
    next => exact trivial
    next hviolations => exact fun hnone => hviolations (List.map_eq_nil_iff.mp hnone)

theorem judge_reasoned (leaf : Leaf) (name : String) (value : Value) (context : Table Value)
    (data : Value) : Yields Judgement.Reasoned (leaf.judge name value context data) := by
  unfold judge
  refine Yields.bind fun early hearly => ?_
  cases early with
  | rejected errors =>
      exact (Yields.ok_iff _).mpr (leaf.consult_reasoned true value context data _ hearly)
  | accepted value =>
      have hconform := leaf.conform_reasoned name value
      dsimp only
      split
      next hrejected =>
        rw [hrejected] at hconform
        exact (Yields.ok_iff _).mpr hconform
      next => exact leaf.consult_reasoned false _ context data

end Leaf

theorem Field.judgeIn_reasoned (field : Field) (context : Table Value) (data : Value)
    (entries : Table Value) (name : String) :
    Yields Judgement.Reasoned (field.judgeIn context data entries name) := by
  unfold judgeIn
  split
  next =>
    unfold Field.absent
    split
    next => exact (Yields.ok_iff _).mpr trivial
    next => exact (Yields.ok_iff _).mpr (List.cons_ne_nil _ _)
  next value _ =>
    cases field with
    | leaf leaf =>
        rw [Field.judge]
        exact leaf.judge_reasoned name value context data
    | group model =>
        rw [Field.judge]
        refine Yields.bind fun pass _ => (Yields.ok_iff _).mpr ?_
        unfold Pass.judgement
        split
        next => exact trivial
        next hinvalid =>
          intro hnone
          exact hinvalid (List.isEmpty_iff.mpr (List.map_eq_nil_iff.mp hnone))

/-! ## Reports that stay empty -/

theorem Report.addAll_isEmpty (report : Report) (errors : List FieldError) :
    (report.addAll errors).isEmpty = true ↔ report.isEmpty = true ∧ errors = [] := by
  simp only [Report.isEmpty, List.isEmpty_iff, List.eq_nil_iff_forall_not_mem,
    Report.mem_errors_addAll, not_or, forall_and]

namespace Pass

theorem isValid_record (pass : Pass) (field message : String) :
    (pass.record field message).isValid = false := by
  have hmem : ⟨field, message⟩ ∈ (pass.record field message).report.errors :=
    (Report.mem_errors_add _ _ _).mpr (.inr rfl)
  rw [← Bool.not_eq_true]
  intro hvalid
  rw [List.isEmpty_iff.mp hvalid] at hmem
  cases hmem

theorem eq_of_isValid {pass : Pass} (hvalid : pass.isValid = true) :
    pass = ⟨.empty, pass.values⟩ := by
  have hreport : pass.report = .empty := Report.ext (List.isEmpty_iff.mp hvalid)
  rw [← hreport]

theorem isValid_enterAll (pass : Pass) (judged : List (String × Judgement)) :
    (pass.enterAll judged).isValid = true ↔
      pass.isValid = true ∧ ∀ entry ∈ judged, entry.2.errors = [] := by
  rw [enterAll_eq, isValid, Report.addAll_isEmpty, List.flatMap_eq_nil_iff]
  exact Iff.rfl

end Pass

/-! ## Accepted fields -/

/-- The judgements that accept fields with the given values. -/
def accepting (values : Table Value) : List (String × Judgement) :=
  values.map fun entry => (entry.1, .accepted entry.2)

theorem Pass.enterAll_accepting {values : Table Value} (hnames : (Table.keys values).Nodup) :
    Pass.opening.enterAll (accepting values) = ⟨.empty, values⟩ := by
  have herrors : (accepting values).flatMap (·.2.errors) = [] := by
    rw [accepting, List.flatMap_map]
    exact List.flatMap_eq_nil_iff.mpr fun _ _ => rfl
  have hentries : ((accepting values).flatMap fun entry => entry.2.entry entry.1) = values := by
    rw [accepting, List.flatMap_map]
    exact List.flatMap_singleton' values
  rw [Pass.enterAll_eq, herrors, hentries]
  exact congrArg (Pass.mk .empty) (Table.insertAll_eq_append [] hnames)

theorem exists_accepting {judged : List (String × Judgement)}
    (hjudged : ∀ entry ∈ judged, ∃ value, entry.2 = .accepted value) :
    ∃ values, judged = accepting values := by
  induction judged with
  | nil => exact ⟨[], rfl⟩
  | cons entry rest ih =>
      obtain ⟨⟨value, hvalue⟩, hrest⟩ := List.forall_mem_cons.mp hjudged
      obtain ⟨values, rfl⟩ := ih hrest
      exact ⟨(entry.1, value) :: values, by simp only [accepting, List.map_cons, ← hvalue]⟩

theorem Field.judgeIn_leaf_accepted {leaf : Leaf} {context : Table Value} {data : Value}
    {entries : Table Value} {name : String} {value : Value} :
    (Field.leaf leaf).judgeIn context data entries name = .ok (.accepted value) ↔
      Table.get? entries name = none ∧ leaf.default = some value ∨
        ∃ given, Table.get? entries name = some given ∧
          leaf.judge name given context data = .ok (.accepted value) := by
  unfold judgeIn
  cases Table.get? entries name with
  | none =>
      cases hdefault : leaf.default <;> simp [absent, default?, hdefault]
  | some given => simp [Field.judge]

/-- A group is accepted when its model makes a pass without reports. -/
theorem Field.judgeIn_group_accepted {model : Model} {context : Table Value} {data : Value}
    {entries : Table Value} {name : String} {value : Value} :
    (Field.group model).judgeIn context data entries name = .ok (.accepted value) ↔
      ∃ given values, Table.get? entries name = some given ∧
        model.pass wholeModel given = .ok ⟨.empty, values⟩ ∧ value = .dict values := by
  unfold judgeIn
  cases Table.get? entries name with
  | none => simp [absent, default?]
  | some given =>
      simp only [Field.judge, bind_eq_ok, pure_eq_ok, Except.ok.injEq, Option.some.injEq,
        exists_and_left, exists_eq_left']
      constructor
      · rintro ⟨pass, hpass, hjudgement⟩
        unfold Pass.judgement at hjudgement
        split at hjudgement
        next hvalid =>
          cases hjudgement
          exact ⟨pass.values, Pass.eq_of_isValid hvalid ▸ hpass, rfl⟩
        next => cases hjudgement
      · rintro ⟨values, hpass, rfl⟩
        exact ⟨_, hpass, rfl⟩

/-- Every field of an input is accepted with the value that stands in its place. -/
def AcceptsAll (context : Table Value) (data : Value) (entries : Table Value) :
    List (String × Field) → Table Value → Prop :=
  List.Forall₂ fun field entry => field.1 = entry.1 ∧
    field.2.judgeIn context data entries field.1 = .ok (.accepted entry.2)

theorem judgements_accepting {context : Table Value} {data : Value} {entries : Table Value}
    {fields : List (String × Field)} {values : Table Value} :
    judgements context data entries fields = .ok (accepting values) ↔
      AcceptsAll context data entries fields values := by
  rw [judgements_eq_ok, accepting, List.forall₂_map_right_iff]
  exact Iff.rfl

theorem AcceptsAll.keys_eq {context : Table Value} {data : Value} {entries : Table Value}
    {fields : List (String × Field)} {values : Table Value}
    (haccepts : AcceptsAll context data entries fields values) :
    Table.keys values = Table.keys fields := by
  induction haccepts with
  | nil => rfl
  | cons hfirst _ ih =>
      rw [Table.keys, Table.keys, List.map_cons, List.map_cons, hfirst.1]
      exact congrArg (List.cons _) ih

/-! ## Valid passes -/

namespace ModelHeader

/-- Nothing is reported before the fields are judged exactly when the validator that precedes
coercion, if there is one, has not failed. -/
theorem prepare_eq_ok {header : ModelHeader} {tag : String} {data input : Value} :
    header.prepare tag data = .ok (input, .opening) ↔
      match header.validatorAt true with
      | none => data = input
      | some validator => validator.callModel data header.context = .ok input := by
  unfold prepare
  cases header.validatorAt true with
  | none => simp
  | some validator =>
      dsimp only
      cases validator.callModel data header.context with
      | ok replaced => simp
      | error failure =>
          simp only [bind_eq_ok, pure_eq_ok, Except.ok.injEq, Prod.mk.injEq, reduceCtorEq,
            iff_false, not_exists, not_and]
          intro message _ _ hopening
          have hinvalid := Pass.isValid_record Pass.opening tag message
          rw [hopening] at hinvalid
          cases hinvalid

theorem prepare_opening {header : ModelHeader} {tag : String} {data input : Value} {opening : Pass}
    (hprepare : header.prepare tag data = .ok (input, opening)) (hvalid : opening.isValid = true) :
    opening = .opening := by
  unfold prepare at hprepare
  split at hprepare
  next =>
    cases hprepare
    rfl
  next =>
    split at hprepare
    next =>
      cases hprepare
      rfl
    next =>
      obtain ⟨message, _, hrecorded⟩ := bind_eq_ok.mp hprepare
      cases hrecorded
      rw [Pass.isValid_record] at hvalid
      cases hvalid

end ModelHeader

/-- A model whose own validator does not follow coercion reports nothing exactly when its input has
become a table in which every field is accepted. -/
theorem Model.pass_eq_valid {model : Model} {tag : String} {data : Value} {values : Table Value}
    (hlate : model.header.validatorAt false = none) (hnames : (Table.keys model.fields).Nodup) :
    model.pass tag data = .ok ⟨.empty, values⟩ ↔
      ∃ entries, model.header.prepare tag data = .ok (.dict entries, .opening) ∧
        AcceptsAll model.header.context (.dict entries) entries model.fields values := by
  rw [Model.pass_eq, bind_eq_ok]
  constructor
  · rintro ⟨⟨input, opening⟩, hprepare, hpass⟩
    cases input with
    | dict entries =>
        dsimp only at hpass
        rw [Model.passFrom_of_none hlate] at hpass
        obtain ⟨judged, hjudged, hentered⟩ := map_eq_ok.mp hpass
        have hvalid : (opening.enterAll judged).isValid = true := by
          rw [hentered]
          rfl
        obtain ⟨hopening, herrors⟩ := (Pass.isValid_enterAll _ _).mp hvalid
        obtain rfl := ModelHeader.prepare_opening hprepare hopening
        -- A rejection would have given a reason, and the report is empty.
        have haccepted : ∀ entry ∈ judged, ∃ value, entry.2 = .accepted value := by
          intro entry hentry
          obtain ⟨field, _, hjudge⟩ := exists_of_mem_judgements hjudged entry hentry
          exact (field.judgeIn_reasoned _ _ _ _ _ hjudge).accepted (herrors entry hentry)
        obtain ⟨found, rfl⟩ := exists_accepting haccepted
        have haccepts := judgements_accepting.mp hjudged
        rw [Pass.enterAll_accepting (haccepts.keys_eq ▸ hnames)] at hentered
        cases hentered
        exact ⟨entries, hprepare, haccepts⟩
    | _ =>
        -- What is not a table has been reported as such.
        have hrecorded := congrArg Pass.isValid (Except.ok.inj hpass)
        rw [Pass.isValid_record] at hrecorded
        cases hrecorded
  · rintro ⟨entries, hprepare, haccepts⟩
    refine ⟨_, hprepare, ?_⟩
    dsimp only
    rw [Model.passFrom_of_none hlate, judgements_accepting.mpr haccepts, map_ok,
      Pass.enterAll_accepting (haccepts.keys_eq ▸ hnames)]

end SchemaGuard
