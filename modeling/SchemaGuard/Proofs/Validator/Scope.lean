import SchemaGuard.Proofs.Program.Steps
import SchemaGuard.Proofs.Table
import SchemaGuard.Proofs.Validator.Screening

/-! # What a model validator finds when it begins

The names of the input take precedence over everything that is bound before them, and only
`data` is bound after them. So the shared context and the record of the call are found under
their names exactly when the input does not bind these names to something else. Nothing
keeps the input from doing so.
-/

namespace SchemaGuard

open Outcome

/-- What a table binds is smaller than the table. -/
theorem Value.sizeOf_get?_lt {entries : Table Value} {name : String} {value : Value}
    (hget : Table.get? entries name = some value) :
    sizeOf value < sizeOf (Value.dict entries) := by
  have hentry := List.sizeOf_lt_of_mem (Table.mem_of_get? hget)
  simp only [Prod.mk.sizeOf_spec] at hentry
  simp only [Value.dict.sizeOf_spec]
  omega

namespace Validator

variable (validator : Validator) (context : Table Value) (data : Value)

theorem get?_opening (field name : String) :
    Table.get? (validator.opening field context data) name =
      if name = "info" then some (info field context data)
      else if name = "context" then some (.dict context)
      else Table.get? validator.bindings name := by
  unfold opening
  simp only [Table.insertAll_cons, Table.insertAll_nil, Table.get?_insert, eq_comm]

/-- A name of the input hides what was bound to it before, unless it is `data`. -/
theorem get?_modelScope (hkeys : (Table.keys (entriesOf data)).Nodup) (name : String) :
    Table.get? (validator.modelScope data context) name =
      if name = "data" then some data
      else (Table.get? (entriesOf data) name).or
        (Table.get? (validator.opening wholeModel context data) name) := by
  unfold modelScope
  rw [Table.insertAll_append, Table.insertAll_cons, Table.insertAll_nil, Table.get?_insert,
    Table.get?_insertAll _ hkeys]
  simp only [eq_comm]

/-- The record of a call holds the whole input, so it is too large to be an entry of it. -/
theorem entry_ne_info {data : Value} {field name : String} {value : Value}
    (hvalue : Table.get? (entriesOf data) name = some value) : value ≠ info field context data := by
  have hentry : sizeOf value < sizeOf data := by
    cases data with
    | dict entries => exact Value.sizeOf_get?_lt hvalue
    | _ => cases hvalue
  have hrecord : sizeOf data < sizeOf (info field context data) :=
    Value.sizeOf_get?_lt (show Table.get? _ "data" = some data from rfl)
  rintro rfl
  omega

/-- The names `context` and `info` mean the shared context and the record of the call when a model
validator begins. -/
def SeesEnvironment : Prop :=
  Eval.resolve validator.evaluator (validator.modelScope data context) "context" =
      .ok (.dict context) ∧
    Eval.resolve validator.evaluator (validator.modelScope data context) "info" =
      .ok (info wholeModel context data)

/-- What `context` and `info` mean when a model validator begins. -/
theorem resolve_modelScope (hkeys : (Table.keys (entriesOf data)).Nodup) {name : String}
    {value : Value} (hname : name = "context" ∨ name = "info")
    (hvalue : Table.get? (validator.opening wholeModel context data) name = some value) :
    Eval.resolve validator.evaluator (validator.modelScope data context) name =
      .ok ((Table.get? (entriesOf data) name).getD value) := by
  have hdenied : isDenied name = false := by rcases hname with rfl | rfl <;> decide
  have hdata : name ≠ "data" := by rcases hname with rfl | rfl <;> decide
  rw [Eval.resolve_of_not_denied hdenied, validator.get?_modelScope context data hkeys,
    if_neg hdata, hvalue]
  cases Table.get? (entriesOf data) name <;> rfl

/-- A model validator sees the shared context and the record of its call if and only if the input
binds neither of their names to anything else. A name that the input does bind means what the
input says. -/
theorem seesEnvironment_iff (hkeys : (Table.keys (entriesOf data)).Nodup) :
    (validator.SeesEnvironment context data ↔
      (∀ value, Table.get? (entriesOf data) "context" = some value → value = .dict context) ∧
        Table.get? (entriesOf data) "info" = none) ∧
      ∀ name value, name = "context" ∨ name = "info" →
        Table.get? (entriesOf data) name = some value →
          Eval.resolve validator.evaluator (validator.modelScope data context) name =
            .ok value := by
  have hcontext := validator.resolve_modelScope context data hkeys (.inl rfl)
    (validator.get?_opening context data wholeModel "context")
  have hinfo := validator.resolve_modelScope context data hkeys (.inr rfl)
    (validator.get?_opening context data wholeModel "info")
  constructor
  · rw [SeesEnvironment, hcontext, hinfo, Except.ok.injEq, Except.ok.injEq]
    constructor
    · rintro ⟨hcontext, hinfo⟩
      constructor
      · intro value hvalue
        rwa [hvalue] at hcontext
      · cases hentry : Table.get? (entriesOf data) "info" with
        | none => rfl
        | some value =>
            rw [hentry] at hinfo
            exact absurd hinfo (entry_ne_info context hentry)
    · rintro ⟨hcontext, hinfo⟩
      rw [hinfo]
      refine ⟨?_, rfl⟩
      cases hentry : Table.get? (entriesOf data) "context" with
      | none => rfl
      | some value => exact hcontext value hentry
  · rintro name value hname hvalue
    rcases hname with rfl | rfl
    · rw [hcontext, hvalue]
      rfl
    · rw [hinfo, hvalue]
      rfl

end Validator

/-- A request for a model validator that takes the limit of a total from the shared context. -/
def limitRequest : ValidatorRequest :=
  .forModel "validate_order" "assert total <= context['limit']" .before

/-- The validator that the request compiles to. -/
def limitValidator : Validator :=
  limitRequest.validator (.withBuiltins {} .restricted)
    [.assert (.compare (.var "total") [(.lessOrEqual, .index (.var "context") (.str "limit"))])
      none]

theorem limitRequest_compile :
    limitRequest.compile (.withBuiltins {} .restricted) = .ok limitValidator := by
  have hsource : (Evaluator.withBuiltins {} .restricted).compile limitRequest.source =
      .ok limitValidator.program := by
    refine Evaluator.compile_of_scan rfl (by cbv) (by cbv)
      ⟨?final, ?scan, ?read⟩ rfl
    case scan =>
      cbv
      rfl
    case read => cbv
  exact ValidatorRequest.compile_of_source rfl hsource

/-- An order that brings a limit of its own beside its total. -/
def limitedOrder : Value :=
  .dict [("total", .int 50), ("context", .dict [("limit", .int 100)])]

example : limitValidator.callModel (.dict [("total", .int 50)]) [("limit", .int 10)] =
    .error (.raised "AssertionError" "Assertion failed") := by
  rfl

example : limitValidator.callModel limitedOrder [("limit", .int 10)] = .ok limitedOrder := by
  rfl

/-- The order passes by its own limit where the shared one would stop it. -/
theorem limitedOrder_hides_context :
    limitRequest.compile (.withBuiltins {} .restricted) = .ok limitValidator ∧
      ¬ limitValidator.SeesEnvironment [("limit", .int 10)] limitedOrder ∧
      Eval.resolve limitValidator.evaluator
          (limitValidator.modelScope limitedOrder [("limit", .int 10)]) "context" =
        .ok (.dict [("limit", .int 100)]) := by
  obtain ⟨hsees, hresolve⟩ :=
    limitValidator.seesEnvironment_iff [("limit", .int 10)] limitedOrder (by decide)
  refine ⟨limitRequest_compile, fun hseen => ?_, hresolve "context" _ (.inl rfl) rfl⟩
  have hcontext := (hsees.mp hseen).1 _ rfl
  simp at hcontext

end SchemaGuard
