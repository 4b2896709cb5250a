import SchemaGuard.Proofs.Program.Coupling

/-! # Steps of a run

What single statements and expressions come to, for statements that run one after another, for the
refusal of a condition, and for the expressions that such conditions are made of.
-/

namespace SchemaGuard

open Outcome

namespace Eval

theorem tick_eq_ok {limits : Limits} {state next : State} :
    tick limits state = .ok next ↔
      state.steps + 1 ≤ limits.maxIterations ∧ next = ⟨state.steps + 1, state.scope⟩ := by
  unfold tick
  split
  next hsteps => simp [hsteps, eq_comm]
  next hsteps => simp [hsteps]

theorem executeBlock_append (ev : Evaluator) (state : State) (first second : List Statement) :
    executeBlock ev state (first ++ second) =
      executeBlock ev state first >>= fun state => executeBlock ev state second := by
  induction first generalizing state with
  | nil =>
      rw [List.nil_append, executeBlock]
      rfl
  | cons statement rest ih =>
      rw [List.cons_append, executeBlock, executeBlock]
      cases execute ev state statement with
      | error failure => rfl
      | ok next => exact ih next

/-- The statement that raises an error with a message when a condition holds. -/
def refuseWhen (condition : Expr) (message : String) : Statement :=
  .branch [(condition, [.raise "ValueError" (some (.str message))])] []

/-- A refusal is passed in one step when its condition does not hold, and in no other case. -/
theorem execute_refuseWhen {ev : Evaluator} {state next : State} {condition : Expr}
    {message : String} : execute ev state (refuseWhen condition message) = .ok next ↔
      tick ev.limits state = .ok next ∧
        ∃ value, evaluateIn ev next condition = .ok value ∧ value.truthy = false := by
  -- What stands under the condition never comes to an end.
  have hraise : ∀ state final, executeBlock ev state
      [.raise "ValueError" (some (.str message))] ≠ .ok final := by
    intro state final hfinal
    rw [executeBlock, execute] at hfinal
    obtain ⟨_, hraised, _⟩ := bind_eq_ok.mp hfinal
    obtain ⟨_, _, hraised⟩ := bind_eq_ok.mp hraised
    obtain ⟨_, _, hraised⟩ := bind_eq_ok.mp hraised
    cases hraised
  unfold refuseWhen
  rw [execute]
  constructor
  · intro hexecute
    obtain ⟨ticked, htick, hexecute⟩ := bind_eq_ok.mp hexecute
    obtain ⟨taken, htaken, hexecute⟩ := bind_eq_ok.mp hexecute
    rw [executeBranches] at htaken
    obtain ⟨value, hvalue, htaken⟩ := bind_eq_ok.mp htaken
    split at htaken
    next =>
      obtain ⟨final, hfinal, _⟩ := bind_eq_ok.mp htaken
      exact absurd hfinal (hraise _ _)
    next hfalse =>
      rw [executeBranches] at htaken
      cases htaken
      rw [executeBlock] at hexecute
      cases hexecute
      exact ⟨htick, value, hvalue, by simpa using hfalse⟩
  · rintro ⟨htick, value, hvalue, hfalse⟩
    simp only [htick, ok_bind, executeBranches, hvalue, hfalse, Bool.false_eq_true, if_false,
      executeBlock]

/-! ## Expressions -/

variable {ev : Evaluator} {scope : Scope} {depth : Nat}

theorem enter_eq {limits : Limits} (hdepth : depth + 1 ≤ limits.maxCallDepth) :
    enter limits depth = .ok (depth + 1) :=
  if_pos hdepth

/-- A name that is not refused means what it is bound to. -/
theorem resolve_of_not_denied {ev : Evaluator} {name : String}
    (hname : isDenied name = false) (scope : Scope) :
    resolve ev scope name =
      match Table.get? scope name with
      | some value => .ok value
      | none => .error (.undefinedVariable name) := by
  rw [resolve, ev.guard.guarded_checkName hname, ok_bind]
  cases Table.get? scope name <;> rfl

theorem evaluate_var {name : String} {value : Value} (hname : isDenied name = false)
    (hvalue : Table.get? scope name = some value) (hdepth : depth + 1 ≤ ev.limits.maxCallDepth) :
    evaluate ev scope false depth (.var name) = .ok value := by
  rw [evaluate, Bool.false_and, if_neg Bool.false_ne_true, enter_eq hdepth, ok_bind,
    resolve_of_not_denied hname, hvalue]

theorem evaluate_not {e : Expr} (hdepth : depth + 1 ≤ ev.limits.maxCallDepth) :
    evaluate ev scope false depth (.not e) =
      (evaluate ev scope false (depth + 1) e).map fun value => .bool (!value.truthy) := by
  rw [evaluate, enter_eq hdepth, ok_bind]
  cases evaluate ev scope false (depth + 1) e <;> rfl

end Eval

theorem Evaluator.run_append (ev : Evaluator) (first second : Program) (scope : Scope) :
    ev.run (first ++ second) scope =
      (Eval.executeBlock ev ⟨0, scope⟩ first >>= fun state =>
        Eval.executeBlock ev state second).map Eval.State.scope := by
  rw [Evaluator.run, Eval.executeBlock_append]

end SchemaGuard
