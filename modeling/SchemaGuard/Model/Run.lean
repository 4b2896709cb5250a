import SchemaGuard.Model.Schema

/-! # Validation

A pass brings input into the shape of a model and reports everything that keeps it from
being so. A validator that precedes coercion sees the raw input and may replace it; then
every field is judged on its own; a validator of the model that follows coercion runs only
when nothing has been reported. Whatever the data, a pass comes to an end with a report.
Only the use of a refused capability by a validator ends it early.
-/

namespace SchemaGuard

/-- The outcome of a pass: what is wrong, and the values of the fields that are right. -/
structure Pass where
  report : Report
  values : Table Value

/-- The judgement on one field. -/
inductive Judgement where
  | accepted (value : Value)
  | rejected (errors : List FieldError)

namespace Pass

/-- The pass before any field is judged. -/
def opening : Pass := ⟨.empty, []⟩

/-- Whether nothing is reported. -/
def isValid (pass : Pass) : Bool :=
  pass.report.isEmpty

/-- Adds a record to the report. -/
def record (pass : Pass) (field message : String) : Pass :=
  { pass with report := pass.report.add ⟨field, message⟩ }

/-- Enters the judgement on a field. -/
def enter (pass : Pass) (name : String) : Judgement → Pass
  | .accepted value => { pass with values := Table.insert pass.values name value }
  | .rejected errors => { pass with report := pass.report.addAll errors }

end Pass

/-- What is reported for a field that the input lacks. -/
def missingField : String := "Field required"

/-- What is reported for input that is no table. -/
def notATable : String := "Input should be a valid dictionary"

/-- The judgement of a field validator on a value. -/
def Validator.judge (validator : Validator) (value : Value) (context : Table Value)
    (data : Value) : Except Failure Judgement :=
  match validator.callField value context data with
  | .ok replaced => .ok (.accepted replaced)
  | .error error => do
      let message ← validator.verdict error
      pure (.rejected [⟨validator.field, message⟩])

namespace Leaf

/-- What the constraints of a leaf say about a coerced value. -/
def violations (leaf : Leaf) (value : Value) : List String :=
  (leaf.constraints.filter (fun c => !c.holds value)).map (·.complaint value)

/-- The coerced value, if it satisfies the constraints. -/
def conform (leaf : Leaf) (name : String) (value : Value) : Judgement :=
  match leaf.type.coerce? value with
  | none => .rejected [⟨name, leaf.type.complaint⟩]
  | some coerced =>
      match leaf.violations coerced with
      | [] => .accepted coerced
      | messages => .rejected (messages.map (FieldError.mk name))

/-- The judgement of the validator of a leaf in one of the two places where it may run. -/
def consult (leaf : Leaf) (early : Bool) (value : Value) (context : Table Value)
    (data : Value) : Except Failure Judgement :=
  match leaf.validator with
  | some validator =>
      if validator.mode.precedesCoercion = early then validator.judge value context data
      else .ok (.accepted value)
  | none => .ok (.accepted value)

/-- The judgement on a value: first of a validator that precedes coercion, then of the type and
the constraints, and then of a validator that follows coercion. -/
def judge (leaf : Leaf) (name : String) (value : Value) (context : Table Value)
    (data : Value) : Except Failure Judgement := do
  match ← leaf.consult true value context data with
  | .rejected errors => pure (.rejected errors)
  | .accepted value =>
      match leaf.conform name value with
      | .rejected errors => pure (.rejected errors)
      | .accepted value => leaf.consult false value context data

end Leaf

/-- The judgement on a group, whose model has made a pass over its value. -/
def Pass.judgement (pass : Pass) (name : String) : Judgement :=
  if pass.isValid then .accepted (.dict pass.values)
  else .rejected (pass.report.errors.map (·.qualified name))

namespace ModelHeader

/-- The validator of a model, if it runs in the given one of its two places. -/
def validatorAt (header : ModelHeader) (early : Bool) : Option Validator :=
  header.validator.filter (fun validator => validator.mode.precedesCoercion == early)

/-- The input that a validator makes of the raw one, and the pass that begins with it. What the
model reports about itself is recorded under `tag`. -/
def prepare (header : ModelHeader) (tag : String) (data : Value) :
    Except Failure (Value × Pass) :=
  match header.validatorAt true with
  | none => .ok (data, .opening)
  | some validator =>
      match validator.callModel data header.context with
      | .ok replaced => .ok (replaced, .opening)
      | .error error => do
          let message ← validator.verdict error
          pure (data, Pass.opening.record tag message)

/-- The pass after the validator that follows coercion, which runs on the values of a pass
without reports. -/
def conclude (header : ModelHeader) (tag : String) (pass : Pass) : Except Failure Pass :=
  match header.validatorAt false with
  | none => .ok pass
  | some validator =>
      if !pass.isValid then .ok pass
      else match validator.callModel (.dict pass.values) header.context with
        | .ok (.dict values) => .ok { pass with values }
        | .ok _ => .ok pass
        | .error error => do
            let message ← validator.verdict error
            pure (pass.record tag message)

end ModelHeader

/-- The judgement on a field that the input lacks. -/
def Field.absent (field : Field) (name : String) : Judgement :=
  match field.default? with
  | some value => .accepted value
  | none => .rejected [⟨name, missingField⟩]

mutual

/-- A pass over the input of a model. What the model reports about itself is recorded under
`tag`. -/
def Model.pass (tag : String) (data : Value) : Model → Except Failure Pass
  | ⟨header, fields⟩ => do
      let (input, opening) ← header.prepare tag data
      match input with
      | .dict entries => do
          let pass ← judgeAll header.context input entries opening fields
          header.conclude tag pass
      | _ => pure (opening.record tag notATable)
termination_by structural model => model

/-- The judgement on the value of a field. -/
def Field.judge (context : Table Value) (data : Value) (name : String) (value : Value) :
    Field → Except Failure Judgement
  | .leaf leaf => leaf.judge name value context data
  | .group model => do
      let pass ← model.pass wholeModel value
      pure (pass.judgement name)
termination_by structural field => field

/-- Judges fields in order and enters the judgements. -/
def judgeAll (context : Table Value) (data : Value) (entries : Table Value) (pass : Pass) :
    List (String × Field) → Except Failure Pass
  | [] => .ok pass
  | (name, field) :: rest => do
      let judgement ← match Table.get? entries name with
        | none => .ok (field.absent name)
        | some value => field.judge context data name value
      judgeAll context data entries (pass.enter name judgement) rest
termination_by structural fields => fields

end

/-- An instance of a model: its name and the values of its fields. -/
structure Instance where
  model : String
  values : Table Value

/-- The value of an instance: the table of its fields. -/
def Instance.toValue (made : Instance) : Value :=
  .dict made.values

namespace Model

/-- A pass over the input of a model, whose reports about itself bear its name. -/
def run (model : Model) (data : Value) : Except Failure Pass :=
  model.pass model.name data

/-- The results of a pass over the input of a model. -/
def validate (model : Model) (data : Value) : Except Failure Results := do
  let pass ← model.run data
  pure ⟨model.jsonSchema, pass.report, data⟩

/-- The instance that a pass without reports gives. -/
def instanceOf (model : Model) (pass : Pass) : Except Failure Instance :=
  if pass.isValid then .ok ⟨model.name, pass.values⟩
  else .error (.construction model.name pass.report.errors)

/-- The instance of a model with the given data. -/
def construct (model : Model) (data : Value) : Except Failure Instance := do
  let pass ← model.run data
  model.instanceOf pass

end Model

end SchemaGuard
