import SchemaGuard.Engine
import SchemaGuard.Proofs.Program.Steps

/-! # Which functions a program can call

Under the restricted guard a call by name never reaches a function whose name is refused. A
call on a receiver is checked as an attribute is, so it reaches every function whose name does
not begin and end with two underscores, refused or not. Two registries that agree on the names
that are not refused are told apart by such calls, and by nothing else.
-/

namespace SchemaGuard

open Outcome Eval

namespace Registry

/-- Two registries agree on a name when both bind it or neither does, and every call of it has the
same outcome. -/
def Agrees (registry registry' : Registry) (name : String) : Prop :=
  registry.has name = registry'.has name ∧
    ∀ args, registry.call name args = registry'.call name args

theorem agrees_of_get? {registry registry' : Registry} {name : String}
    (hget : Table.get? registry.functions name = Table.get? registry'.functions name) :
    registry.Agrees registry' name := by
  constructor
  · unfold has Table.contains
    rw [hget]
  · intro args
    unfold call
    rw [hget]

/-- A function that is registered changes no call of another name. -/
theorem agrees_of_register {registry registry' : Registry} {function : Function} {name : String}
    (hregister : registry.register function = .ok registry') (hname : function.name ≠ name) :
    registry.Agrees registry' name := by
  apply agrees_of_get?
  unfold register at hregister
  split at hregister
  · cases hregister
  · cases hregister
    show _ = Table.get? (Table.insert registry.functions function.name function) name
    rw [Table.get?_insert, if_neg hname]

end Registry

namespace Evaluator

/-- The evaluator with other functions. -/
def withFunctions (ev : Evaluator) (functions : Registry) : Evaluator :=
  { ev with functions }

theorem limits_withFunctions (ev : Evaluator) (functions : Registry) :
    ev.limits = (ev.withFunctions functions).limits := rfl

theorem insert_same {scope scope' : Scope} (name : String) (value : Value)
    (hscope : scope = scope') : Table.insert scope name value = Table.insert scope' name value := by
  rw [hscope]

/-- An evaluator and one with other functions, run from the same scope. -/
def functionCoupling (ev : Evaluator) (functions : Registry) :
    Coupling ev (ev.withFunctions functions) where
  Related := Eq
  limits := ev.limits_withFunctions functions
  insert := @insert_same

theorem functionCoupling_alike {ev : Evaluator} {functions : Registry} {use : Use}
    (hagrees : ∀ name, use = .calls name ∨ use = .invokes name → ev.guard.check use = .ok () →
      ev.functions.Agrees functions name) :
    (ev.functionCoupling functions).Alike use := by
  rintro scope _ rfl
  refine ⟨rfl, ?_⟩
  have hcall (name : String) (huse : use = .calls name ∨ use = .invokes name)
      (hguarded : guarded (ev.guard.check use) = .ok ()) :
      ev.functions.has name = functions.has name ∧
        ∀ args, callFunction ev name args =
          callFunction (ev.withFunctions functions) name args := by
    obtain ⟨hhas, hcalls⟩ := hagrees name huse (guarded_eq_ok.mp hguarded)
    refine ⟨hhas, fun args => ?_⟩
    unfold callFunction withFunctions
    rw [hcalls]
  cases use with
  | reads name => exact ⟨rfl, rfl⟩
  | calls name => exact hcall name (.inl rfl)
  | invokes name => exact hcall name (.inr rfl)
  | binds name | imports name | selects name => exact trivial

/-- The program that calls a function on the value of a name. -/
def invocation (name : String) : Program :=
  [.assign "result" (.call (.attr (.var "value") name) [])]

/-- A call on a receiver is answered by the registry whenever the name is no dunder. -/
theorem run_invocation {ev : Evaluator} {name : String} (hdunder : isDunder name = false)
    (hhas : ev.functions.has name = true) (hdepth : 2 ≤ ev.limits.maxCallDepth)
    (hsteps : 1 ≤ ev.limits.maxIterations) (value : Value) :
    ev.run (invocation name) [("value", value)] =
      (callFunction ev name [value]).map
        (fun answer => [("value", value), ("result", answer)]) := by
  have hbind := ev.guard.guarded_checkName (show isDenied "result" = false by decide)
  have hselect : guarded (ev.guard.checkAttribute name) = .ok () := by
    simp [Guard.checkAttribute, hdunder, guarded]
  have hreceiver : Eval.evaluate ev [("value", value)] false 1 (.var "value") = .ok value :=
    evaluate_var (by decide) rfl (by omega)
  have hcall : Eval.evaluate ev [("value", value)] false 0
      (.call (.attr (.var "value") name) []) = callFunction ev name [value] := by
    rw [Eval.evaluate, enter_eq (by omega), ok_bind, hselect, ok_bind, hreceiver, ok_bind,
      if_pos hhas, evaluateArgs, ok_bind]
  unfold Evaluator.run invocation
  simp only [executeBlock, execute, tick, hsteps, if_true, ok_bind, hbind, evaluateIn, hcall,
    Nat.zero_add]
  cases callFunction ev name [value] with
  | error error => rfl
  | ok answer => rfl

/-- Under the restricted guard two registries that agree on every name that is not refused let a
program run alike, as long as they agree on the refused names that it calls on a receiver. They
have to: every refused name is called in this way unless it is a dunder. -/
theorem registries_told_apart_by_receiver_calls {ev : Evaluator} (hguard : ev.guard = .restricted)
    {functions : Registry}
    (hpermitted : ∀ name, isDenied name = false → ev.functions.Agrees functions name) :
    (∀ program : Program,
      (∀ name, isDenied name = true → isDunder name = false → .invokes name ∈ program.uses →
        ev.functions.Agrees functions name) →
      ∀ scope, (ev.withFunctions functions).run program scope = ev.run program scope) ∧
    (∀ name value, isDenied name = true → isDunder name = false →
      functions.has name = true → 2 ≤ ev.limits.maxCallDepth → 1 ≤ ev.limits.maxIterations →
      (ev.withFunctions functions).run (invocation name) [("value", value)] =
        (callFunction (ev.withFunctions functions) name [value]).map
          (fun answer => [("value", value), ("result", answer)])) := by
  constructor
  · intro program hinvoked scope
    have halike : ∀ use ∈ program.uses, (ev.functionCoupling functions).Alike use := by
      intro use huse
      apply functionCoupling_alike
      intro name hcalls hcheck
      rw [hguard] at hcheck
      by_cases hdenied : isDenied name = true
      · rcases hcalls with rfl | rfl
        · simp [Guard.check, Guard.checkName, Guard.hides, Guard.restricted, hdenied] at hcheck
        · apply hinvoked name hdenied _ huse
          simpa [Guard.check, Guard.checkAttribute, Guard.restricted] using hcheck
      · exact hpermitted name (by simpa using hdenied)
    have hagree := (ev.functionCoupling functions).run_coupled halike (Eq.refl scope)
    exact (Agree.eq hagree).symm
  · intro name value _ hdunder hhas hdepth hsteps
    have hhas : (ev.withFunctions functions).functions.has name = true := hhas
    exact run_invocation hdunder hhas hdepth hsteps value

end Evaluator

/-- A function of a refused name that answers what it is called with. -/
def evalFunction : Function :=
  ⟨"eval", .range 0 none, fun args => .ok (.list (.str "called" :: args))⟩

/-- The built-in functions and one of a refused name. -/
def evalRegistry : Registry :=
  { Registry.builtin with
    functions := Table.insert Registry.builtin.functions "eval" evalFunction }

/-- The function cannot be called by name, in whatever scope, but it can be called on a
receiver. -/
theorem evalRegistry_told_apart :
    Registry.builtin.register evalFunction = .ok evalRegistry ∧
      (∀ scope,
        (Evaluator.withFunctions ⟨{}, .restricted, .builtin⟩ evalRegistry).run
            [.assign "result" (.call (.var "eval") [.var "value"])] scope =
          (⟨{}, .restricted, .builtin⟩ : Evaluator).run
            [.assign "result" (.call (.var "eval") [.var "value"])] scope) ∧
      (Evaluator.withFunctions ⟨{}, .restricted, .builtin⟩ evalRegistry).run
          (Evaluator.invocation "eval") [("value", .int 1)] =
        .ok [("value", .int 1), ("result", .list [.str "called", .int 1])] ∧
      (⟨{}, .restricted, .builtin⟩ : Evaluator).run (Evaluator.invocation "eval")
          [("value", .int 1)] =
        .error (.missingAttribute "int" "eval") := by
  have hregister : Registry.builtin.register evalFunction = .ok evalRegistry := rfl
  have hpermitted (name : String) (hname : isDenied name = false) :
      Registry.builtin.Agrees evalRegistry name := by
    apply Registry.agrees_of_register hregister
    rintro rfl
    revert hname
    decide
  have hguard : (⟨{}, .restricted, .builtin⟩ : Evaluator).guard = .restricted := rfl
  obtain ⟨halike, hinvoked⟩ :=
    Evaluator.registries_told_apart_by_receiver_calls hguard hpermitted
  refine ⟨hregister, ?_, ?_, rfl⟩
  · apply halike
    intro name _ _ huse
    simp [Program.uses, Statement.usesOfBlock, Statement.uses, Expr.uses, Expr.usesOfList] at huse
  · rw [hinvoked "eval" (.int 1) (by decide) (by decide) rfl (by decide) (by decide)]
    rfl

end SchemaGuard
