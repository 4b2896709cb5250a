import SchemaGuard.Value

/-! # Reports

What a validation finds wrong with its input. A report keeps its records in the order in
which they were first added and keeps none of them twice. Records of a nested model enter
the report of the model around it under names qualified by the field that holds it.
-/

namespace SchemaGuard

/-- The field name under which a nested model reports about itself as a whole. -/
def wholeModel : String := "__model__"

/-- One failure: the field that fails and why. -/
structure FieldError where
  field : String
  message : String
deriving DecidableEq, Repr

namespace FieldError

/-- The record as the model around it reports it; a record about the nested model as a whole
becomes one about the field that holds it. -/
def qualified (outer : String) (error : FieldError) : FieldError :=
  if error.field = wholeModel then ⟨outer, error.message⟩
  else ⟨outer ++ "." ++ error.field, error.message⟩

/-- The written form of a record. -/
def text (error : FieldError) : String :=
  error.field ++ ": " ++ error.message

end FieldError

/-- Distinct records in the order in which they were first added. -/
structure Report where
  errors : List FieldError
  nodup : errors.Nodup

namespace Report

/-- The report without records. -/
def empty : Report := ⟨[], List.nodup_nil⟩

instance : Inhabited Report := ⟨empty⟩

@[ext] theorem ext {r s : Report} (h : r.errors = s.errors) : r = s := by
  cases r
  cases s
  cases h
  rfl

/-- Whether a report holds no record. -/
def isEmpty (report : Report) : Bool :=
  report.errors.isEmpty

/-- The number of records. -/
def size (report : Report) : Nat :=
  report.errors.length

/-- Adds a record at the end unless it is there already. -/
def add (report : Report) (error : FieldError) : Report :=
  if h : error ∈ report.errors then report
  else ⟨report.errors ++ [error], by
    have := report.nodup
    grind [List.nodup_append]⟩

/-- Whether adding a record would change the report. -/
def isNew (report : Report) (error : FieldError) : Bool :=
  decide (error ∉ report.errors)

/-- Adds records from left to right. -/
def addAll (report : Report) (errors : List FieldError) : Report :=
  errors.foldl add report

/-- The report of given records. -/
def ofList (errors : List FieldError) : Report :=
  addAll empty errors

/-- Adds the records of a nested model, qualified by the field that holds it. -/
def addNested (report : Report) (outer : String) (nested : Report) : Report :=
  addAll report (nested.errors.map (·.qualified outer))

theorem errors_add (report : Report) (error : FieldError) :
    (report.add error).errors =
      if error ∈ report.errors then report.errors else report.errors ++ [error] := by
  unfold add
  split <;> simp_all

theorem mem_errors_add (report : Report) (error other : FieldError) :
    other ∈ (report.add error).errors ↔ other ∈ report.errors ∨ other = error := by
  rw [errors_add]
  split <;> grind

theorem isNew_iff (report : Report) (error : FieldError) :
    report.isNew error = true ↔ error ∉ report.errors := by
  simp [isNew]

theorem mem_errors_addAll (report : Report) (errors : List FieldError) (other : FieldError) :
    other ∈ (report.addAll errors).errors ↔ other ∈ report.errors ∨ other ∈ errors := by
  induction errors generalizing report with
  | nil => simp [addAll]
  | cons error rest ih =>
      have step : report.addAll (error :: rest) = (report.add error).addAll rest := rfl
      rw [step, ih, mem_errors_add]
      grind

end Report

/-- The outcome of one validation: a description of the model, what is wrong, and the input. -/
structure Results where
  schema : Value
  report : Report
  data : Value

namespace Results

/-- Input is valid when nothing is reported. -/
def valid (results : Results) : Bool :=
  results.report.isEmpty

/-- The names of the fields that fail, each once, in the order of the report. -/
def errorFields (results : Results) : List String :=
  (results.report.errors.map FieldError.field).eraseDups

/-- The records about one field. -/
def errorsFor (results : Results) (field : String) : List FieldError :=
  results.report.errors.filter (·.field = field)

end Results

end SchemaGuard
