import SchemaGuard.Engine
import SchemaGuard.Failure

/-! # Validators

A validator is a compiled program that judges the value of one field, or the whole input of
a model. A field validator sees the value under the field's own name and under `value`, and
answers with the final `value`. A model validator sees every entry of its input by name, and
the entries whose names it binds anew replace those of the input. Both see the shared
context of the document, and a record of what they are called for.
-/

namespace SchemaGuard

/-- When a validator runs relative to coercion. -/
inductive Mode where
  | before
  | after
  | wrap
deriving DecidableEq, Repr

namespace Mode

/-- The name of a mode. -/
def name : Mode → String
  | before => "before"
  | after => "after"
  | wrap => "wrap"

/-- The mode that a name stands for. -/
def ofName? : String → Option Mode
  | "before" => some before
  | "after" => some after
  | "wrap" => some wrap
  | _ => none

/-- Whether a validator sees its input as it came. -/
def precedesCoercion : Mode → Bool
  | before | wrap => true
  | after => false

@[simp] theorem ofName?_name (mode : Mode) : ofName? mode.name = some mode := by
  cases mode <;> rfl

end Mode

/-- What a validator judges. -/
inductive Subject where
  | field
  | model
deriving DecidableEq, Repr

/-- The name of a subject. -/
def Subject.name : Subject → String
  | field => "field"
  | model => "model"

/-- A compiled validator with everything that it needs to run. -/
structure Validator where
  name : String
  field : String
  subject : Subject
  mode : Mode
  program : Program
  bindings : Scope
  evaluator : Evaluator

/-- A validator as it is asked for. Only field validators can refuse empty values. -/
structure ValidatorRequest where
  name : String
  field : String
  subject : Subject
  source : String
  mode : Mode
  refusesEmpty : Bool
  bindings : Scope := []

namespace ValidatorRequest

/-- A validator for a field, named after it. -/
def forField (field source : String) (mode : Mode) (refusesEmpty : Bool) : ValidatorRequest :=
  { name := field ++ "_validator", field, subject := .field, source, mode, refusesEmpty }

/-- A validator for a whole model. -/
def forModel (name source : String) (mode : Mode) : ValidatorRequest :=
  { name, field := wholeModel, subject := .model, source, mode, refusesEmpty := false }

/-- The source of the program that refuses empty values. -/
def refusalOfEmpty : String :=
  "if not value: raise ValueError('Value cannot be empty')"

/-- A source that cannot be used: it asks for a refused capability, or it is malformed. -/
def unusable (validator : String) (error : ParseError) : Failure :=
  match error with
  | .forbidden capability => .forbidden capability validator
  | other => .schema validator other.message

/-- The program that runs before a field validator that refuses empty values. -/
def opening (request : ValidatorRequest) : Except ParseError Program :=
  if request.subject = .field ∧ request.refusesEmpty then Program.parse {} refusalOfEmpty
  else .ok []

/-- The program of a request. -/
def program (request : ValidatorRequest) (ev : Evaluator) : Except ParseError Program := do
  let body ← ev.compile request.source
  let opening ← request.opening
  pure (opening ++ body)

/-- Compiles a request. -/
def compile (request : ValidatorRequest) (ev : Evaluator) : Except Failure Validator :=
  match request.program ev with
  | .error error => .error (unusable request.name error)
  | .ok program =>
      .ok {
        name := request.name
        field := request.field
        subject := request.subject
        mode := request.mode
        program
        bindings := request.bindings
        evaluator := ev }

end ValidatorRequest

namespace Validator

/-- The record of a call that a program finds under `info`. -/
def info (field : String) (context : Table Value) (data : Value) : Value :=
  .dict [("field_name", .str field), ("context", .dict context), ("data", data)]

/-- The bindings that every call begins with. -/
def opening (validator : Validator) (field : String) (context : Table Value) (data : Value) :
    Scope :=
  Table.insertAll validator.bindings
    [("context", .dict context), ("info", info field context data)]

/-- The bindings under which a field validator judges a value. -/
def fieldScope (validator : Validator) (value : Value) (context : Table Value) (data : Value) :
    Scope :=
  Table.insertAll (validator.opening validator.field context data)
    [(validator.field, value), ("value", value)]

/-- Judges the value of a field; the answer is the value that takes its place. -/
def callField (validator : Validator) (value : Value) (context : Table Value) (data : Value) :
    Except EvalError Value := do
  let scope ← validator.evaluator.run validator.program (validator.fieldScope value context data)
  pure ((Table.get? scope "value").getD .null)

/-- The entries of a table; any other value has none. -/
def entriesOf : Value → Table Value
  | .dict entries => entries
  | _ => []

/-- The bindings under which a model validator judges its input. -/
def modelScope (validator : Validator) (data : Value) (context : Table Value) : Scope :=
  Table.insertAll (validator.opening wholeModel context data)
    (entriesOf data ++ [("data", data)])

/-- The entries of the input whose names are bound to something else at the end of a run. -/
def rebound (scope : Scope) (entries : Table Value) : Table Value :=
  entries.filterMap (fun (name, before) =>
    match Table.get? scope name with
    | some now => if now.identical before then none else some (name, now)
    | none => none)

/-- What a model validator makes of its input: the table bound to `data` at the end of the run
with the entries that were bound anew. Input that is no table stays as it is unless the run
binds `data` to a table. -/
def reworked (scope : Scope) (data : Value) : Value :=
  match Table.get? scope "data", data with
  | some (.dict entries), _ => .dict (Table.insertAll entries (rebound scope (entriesOf data)))
  | _, .dict entries => .dict (Table.insertAll entries (rebound scope entries))
  | _, other => other

/-- Judges the input of a model; the answer takes the place of the input. -/
def callModel (validator : Validator) (data : Value) (context : Table Value) :
    Except EvalError Value := do
  let scope ← validator.evaluator.run validator.program (validator.modelScope data context)
  pure (reworked scope data)

/-- What a failed run means: a refused capability ends the validation, and anything else is a
message for the report. -/
def verdict (validator : Validator) (error : EvalError) : Except Failure String :=
  match error with
  | .forbidden capability => .error (.forbidden capability validator.name)
  | other => .ok other.message

end Validator

end SchemaGuard
