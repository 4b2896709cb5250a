import SchemaGuard.Proofs.Validator.ItemLoop
import SchemaGuard.Proofs.Validator.Scope

/-! # Validators that check items

A validator that ends with the check of items comes to its end only when every item of its
list passes, whatever runs before the check, as long as that binds neither `value` nor the name
of the kind. The kind is looked up by its name in the scope of the validator, where the name of
the field is bound to the list itself.
-/

namespace SchemaGuard

open Outcome

namespace ValidatorRequest

/-- Empty values are refused in one step, and other values pass in one. -/
theorem execute_refusal {ev : Evaluator} (hdepth : 2 ≤ ev.limits.maxCallDepth)
    {state next : Eval.State} {value : Value}
    (hvalue : Table.get? state.scope "value" = some value) :
    Eval.executeBlock ev state refusal = .ok next ↔
      value.truthy = true ∧ state.steps + 1 ≤ ev.limits.maxIterations ∧
        next = ⟨state.steps + 1, state.scope⟩ := by
  have hread : Eval.evaluate ev state.scope false 0 (.not (.var "value")) =
      .ok (.bool (!value.truthy)) := by
    rw [Eval.evaluate_not (by omega), Eval.evaluate_var (by decide) hvalue (by omega)]
    rfl
  have hrefusal : refusal = [Eval.refuseWhen (.not (.var "value")) "Value cannot be empty"] := rfl
  rw [hrefusal, Eval.executeBlock]
  simp only [Eval.executeBlock, bind_eq_ok, Eval.execute_refuseWhen, Eval.tick_eq_ok,
    Eval.evaluateIn, Except.ok.injEq]
  constructor
  · rintro ⟨_, ⟨⟨hsteps, rfl⟩, empty, hempty, hfalse⟩, rfl⟩
    rw [hread] at hempty
    cases hempty
    exact ⟨by simpa [Value.truthy] using hfalse, hsteps, rfl⟩
  · rintro ⟨htruthy, hsteps, rfl⟩
    refine ⟨_, ⟨⟨hsteps, rfl⟩, _, hread, ?_⟩, rfl⟩
    rw [htruthy]
    rfl

/-- What runs before the source of a request binds no name. -/
theorem opening_binds {request : ValidatorRequest} {opening : Program}
    (hopening : request.opening = .ok opening) (name : String) : ¬ opening.Binds name := by
  have hrefusal : ∀ use ∈ refusal.uses, use.bound? = none := by decide
  have hnone : ∀ use ∈ opening.uses, use.bound? = none := by
    unfold ValidatorRequest.opening at hopening
    split at hopening
    · rw [parse_refusalOfEmpty] at hopening
      cases hopening
      exact hrefusal
    · cases hopening
      simp [Program.uses, Statement.usesOfBlock]
  rintro ⟨use, huse, hbound⟩
  rw [hnone use huse] at hbound
  cases hbound

end ValidatorRequest

namespace Validator

variable (validator : Validator) (value : Value) (context : Table Value) (data : Value)

theorem get?_fieldScope (name : String) :
    Table.get? (validator.fieldScope value context data) name =
      if name = "value" ∨ name = validator.field then some value
      else Table.get? (validator.opening validator.field context data) name := by
  unfold fieldScope
  simp only [Table.insertAll_cons, Table.insertAll_nil, Table.get?_insert, eq_comm]
  by_cases hvalue : name = "value"
  · simp [hvalue]
  · by_cases hfield : name = validator.field
    · simp [hfield]
    · simp [hvalue, hfield]

variable {validator value context data}

theorem callField_ok_iff :
    (∃ replaced, validator.callField value context data = .ok replaced) ↔
      ∃ final, validator.evaluator.run validator.program
        (validator.fieldScope value context data) = .ok final := by
  unfold callField
  constructor
  · rintro ⟨replaced, hcall⟩
    obtain ⟨final, hrun, _⟩ := bind_eq_ok.mp hcall
    exact ⟨final, hrun⟩
  · rintro ⟨final, hrun⟩
    exact ⟨_, by rw [hrun]; rfl⟩

end Validator

namespace ItemCheck

/-- A kind that is given by its name is looked for among the kinds of the item. -/
theorem passes_name {item : ScalarType} {value : Value} :
    Passes (.str item.name) value ↔
      value.truthy = true ∧ value.hasKind? item.name = some true := by
  have hknown : ∃ b, value.hasKind? item.name = some b := by
    cases item <;> exact ⟨_, rfl⟩
  obtain ⟨b, hb⟩ := hknown
  unfold Passes Function.isinstance Function.isOfKind
  simp [hb]

/-- What the check asks for in the list of a field: the list itself where the field is named after
the kind, and the kind by its name in any other field. -/
def sought (field : String) (item : ScalarType) (items : List Value) : Value :=
  if field = item.name then .list items else .str item.name

theorem passes_sought {field : String} {item : ScalarType} {items : List Value} {value : Value} :
    Passes (sought field item items) value ↔ value.truthy = true ∧
      if field = item.name then Function.isinstance [value, .list items] = .ok (.bool true)
      else value.hasKind? item.name = some true := by
  unfold sought
  by_cases hfield : field = item.name
  · rw [if_pos hfield, if_pos hfield, Passes]
  · rw [if_neg hfield, if_neg hfield, passes_name]

theorem kindIn_fieldScope {validator : Validator} (hbindings : validator.bindings = [])
    (items : List Value) (context : Table Value) (data : Value) (item : ScalarType) :
    kindIn (validator.fieldScope (.list items) context data) item =
      sought validator.field item items := by
  unfold sought
  have hvalue : item.name ≠ "value" := by cases item <;> decide
  have hinfo : item.name ≠ "info" := by cases item <;> decide
  have hcontext : item.name ≠ "context" := by cases item <;> decide
  rw [kindIn, validator.get?_fieldScope, validator.get?_opening, hbindings, if_neg hinfo,
    if_neg hcontext]
  by_cases hfield : validator.field = item.name
  · rw [if_pos (.inr hfield.symm), if_pos hfield]
    rfl
  · rw [if_neg (by simp [hvalue, Ne.symm hfield]), if_neg hfield]
    rfl

section

variable {validator : Validator} {item : ScalarType} {message : String} {items : List Value}
  {context : Table Value} {data : Value}

/-- Whatever runs before the check, a validator that ends with it comes to its end only when every
item passes. -/
theorem passes_of_callField (hbindings : validator.bindings = [])
    (hfunctions : validator.evaluator.functions = Registry.restricted)
    (hdepth : 4 ≤ validator.evaluator.limits.maxCallDepth) {before : Program}
    (hprogram : validator.program = before ++ program item message)
    (hvalue : ¬ before.Binds "value") (hkind : ¬ before.Binds item.name)
    (hcall : ∃ replaced, validator.callField (.list items) context data = .ok replaced) :
    ∀ value ∈ items, Passes (sought validator.field item items) value := by
  obtain ⟨final, hrun⟩ := Validator.callField_ok_iff.mp hcall
  rw [hprogram, Evaluator.run_append] at hrun
  obtain ⟨last, hlast, _⟩ := map_eq_ok.mp hrun
  obtain ⟨state, hbefore, hlast⟩ := bind_eq_ok.mp hlast
  have hreached : validator.evaluator.run before (validator.fieldScope (.list items) context data) =
      .ok state.scope := map_eq_ok.mpr ⟨state, hbefore, rfl⟩
  have hitems : Table.get? state.scope "value" = some (.list items) := by
    rw [Evaluator.run_frame hvalue hreached, validator.get?_fieldScope, if_pos (.inl rfl)]
  -- Neither of the names on which the check depends is bound by what runs before it.
  have hsame : kindIn state.scope item = sought validator.field item items := by
    rw [kindIn, Evaluator.run_frame hkind hreached, ← kindIn,
      kindIn_fieldScope hbindings items context data]
  rw [← hsame]
  exact ((execute_ok_iff hfunctions hdepth hitems).mp ⟨last, hlast⟩).1

/-- A validator that refuses empty values and then checks the items comes to its end just when the
list has items and every one of them passes, if it may take the steps for all of them. -/
theorem callField_ok_iff (hbindings : validator.bindings = [])
    (hfunctions : validator.evaluator.functions = Registry.restricted)
    (hdepth : 4 ≤ validator.evaluator.limits.maxCallDepth)
    (hprogram : validator.program = ValidatorRequest.refusal ++ program item message)
    (hsteps : 3 * items.length + 2 ≤ validator.evaluator.limits.maxIterations) :
    (∃ replaced, validator.callField (.list items) context data = .ok replaced) ↔
      items ≠ [] ∧ ∀ value ∈ items, Passes (sought validator.field item items) value := by
  rw [← kindIn_fieldScope hbindings items context data, Validator.callField_ok_iff, hprogram,
    Evaluator.run_append]
  have hitems : Table.get? (validator.fieldScope (.list items) context data) "value" =
      some (.list items) := by
    rw [validator.get?_fieldScope, if_pos (.inl rfl)]
  generalize validator.fieldScope (.list items) context data = scope at hitems ⊢
  have hrefusal : ∀ next, Eval.executeBlock validator.evaluator ⟨0, scope⟩
      ValidatorRequest.refusal = .ok next ↔ items ≠ [] ∧ next = ⟨1, scope⟩ := by
    intro next
    rw [ValidatorRequest.execute_refusal (by omega) hitems]
    have hone : 0 + 1 ≤ validator.evaluator.limits.maxIterations := by omega
    simp [Value.truthy, hone]
  have hcheck : (∃ final, Eval.executeBlock validator.evaluator ⟨1, scope⟩ (program item message) =
      .ok final) ↔ _ := execute_ok_iff hfunctions hdepth hitems
  constructor
  · rintro ⟨final, hrun⟩
    obtain ⟨last, hlast, _⟩ := map_eq_ok.mp hrun
    obtain ⟨state, hbefore, hlast⟩ := bind_eq_ok.mp hlast
    obtain ⟨hne, rfl⟩ := (hrefusal state).mp hbefore
    exact ⟨hne, (hcheck.mp ⟨last, hlast⟩).1⟩
  · rintro ⟨hne, hpasses⟩
    obtain ⟨last, hlast⟩ := hcheck.mpr ⟨hpasses, by dsimp only; omega⟩
    refine ⟨last.scope, map_eq_ok.mpr ⟨last, ?_, rfl⟩⟩
    rw [(hrefusal ⟨1, scope⟩).mpr ⟨hne, rfl⟩, ok_bind, hlast]

end

end ItemCheck

end SchemaGuard
