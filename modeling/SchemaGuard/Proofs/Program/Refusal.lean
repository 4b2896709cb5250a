import SchemaGuard.Proofs.Program.Causes

/-! # Runs without refusals

A guard that permits every use in a program refuses nothing while the program runs, in
whatever scope and with whatever functions. The use that a step of the run is about to make
is listed among the uses of the program, so the check at run time repeats one that passed.
-/

namespace SchemaGuard

open Outcome

theorem Eval.enter_unrefused (limits : Limits) (depth : Nat) :
    Unrefused (enter limits depth) := by
  unfold enter
  split <;> simp [EvalError.Unrefused, EvalError.isForbidden, EvalError.capability?]

/-- A program whose uses the guard permits runs without a refusal from every scope. -/
theorem Evaluator.run_unrefused (ev : Evaluator) {program : Program}
    (huses : ev.guard.Permits program.uses) (scope : Scope) :
    Eval.Unrefused (ev.run program scope) := by
  refine Evaluator.run_failsOnly (fun _ => EvalError.Ordinary.unrefused) ?_ ?_ scope
  · intro use huse
    rw [huses use huse]
    exact FailsOnly.ok ()
  · intro e _ depth _
    exact Eval.enter_unrefused ev.limits depth

end SchemaGuard
