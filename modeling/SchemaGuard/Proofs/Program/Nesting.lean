import SchemaGuard.Proofs.Program.Guarding
import SchemaGuard.Proofs.Source.Nesting
import Mathlib

/-! # Runs of sources and their depth

A run ends for its depth only by an expression that is higher than evaluation may go. In
a source that has been read under the same limit such an expression takes levels that
reading does not count.
-/

namespace SchemaGuard

open Outcome

/-- A failure that is not for the depth of an evaluation. -/
def EvalError.NotTooDeep (error : EvalError) : Prop :=
  ∀ max, error ≠ .tooDeep max

theorem EvalError.Ordinary.notTooDeep {error : EvalError} (hordinary : error.Ordinary) :
    error.NotTooDeep := by
  rintro max rfl
  exact hordinary

namespace Eval

variable {ev : Evaluator}

theorem checks_notTooDeep (uses : List Use) : Checks ev EvalError.NotTooDeep uses := by
  intro use _
  cases ev.guard.check use with
  | ok _ => exact FailsOnly.ok ()
  | error refusal => exact (FailsOnly.error_iff _).mpr fun max => EvalError.noConfusion

theorem enters_notTooDeep {bound : Nat} (hbound : bound ≤ ev.limits.maxCallDepth) :
    Enters ev EvalError.NotTooDeep bound := by
  intro depth hdepth
  rw [enter_eq_ok.mpr ⟨by omega, rfl⟩]
  exact FailsOnly.ok _

/-- No evaluation ends for its depth when the expression is as high as permitted or less. -/
theorem evaluate_within_height {e : Expr} {depth : Nat}
    (hheight : depth + e.depth ≤ ev.limits.maxCallDepth) (scope : Scope) (kindExpected : Bool) :
    FailsOnly EvalError.NotTooDeep (evaluate ev scope kindExpected depth e) :=
  evaluate_failsOnly (fun _ => EvalError.Ordinary.notTooDeep) scope e kindExpected depth
    (checks_notTooDeep _) (enters_notTooDeep hheight)

end Eval

namespace Evaluator

/-- No run ends for its depth when all expressions of the program are as high as permitted or
less. -/
theorem run_within_height (ev : Evaluator) {program : Program}
    (hheight : ∀ e ∈ program.expressions, e.depth ≤ ev.limits.maxCallDepth) (scope : Scope) :
    FailsOnly EvalError.NotTooDeep (ev.run program scope) :=
  run_failsOnly (fun _ => EvalError.Ordinary.notTooDeep) (Eval.checks_notTooDeep _)
    (fun e he => Eval.enters_notTooDeep (hheight e he)) scope

/-- The expressions of a source that loads exceed the permitted depth by no more than their levels
that reading does not count, and a run of it ends for its depth only where one of them does. -/
theorem loaded_source_depth {ev : Evaluator} {source : String} {program : Program}
    (hcompile : ev.compile source = .ok program) :
    (∀ e ∈ program.expressions, e.depth ≤ ev.limits.maxCallDepth + e.uncounted) ∧
      ∀ scope max, ev.run program scope = .error (.tooDeep max) →
        ∃ e ∈ program.expressions, ev.limits.maxCallDepth < e.depth ∧ 0 < e.uncounted := by
  obtain ⟨_, hparse, _⟩ := compile_eq_ok.mp hcompile
  have hdepth : ∀ e ∈ program.expressions, e.depth ≤ ev.limits.maxCallDepth + e.uncounted :=
    fun e he => Program.depth_le_of_parse hparse he
  refine ⟨hdepth, fun scope max hrun => ?_⟩
  by_contra hnone
  have hheight : ∀ e ∈ program.expressions, e.depth ≤ ev.limits.maxCallDepth := by
    intro e he
    have hle := hdepth e he
    by_contra hhigh
    exact hnone ⟨e, he, by omega, by omega⟩
  exact ev.run_within_height hheight scope _ hrun max rfl

/-- A source of which every level is counted never ends for its depth. -/
theorem negation_never_too_deep :
    (withBuiltins ⟨100, 2, 100⟩ .restricted).compile "flag = not ready" =
        .ok [.assign "flag" (.not (.var "ready"))] ∧
      ∀ scope max, (withBuiltins ⟨100, 2, 100⟩ .restricted).run
        [.assign "flag" (.not (.var "ready"))] scope ≠ .error (.tooDeep max) := by
  have hcompile : (withBuiltins ⟨100, 2, 100⟩ .restricted).compile "flag = not ready" =
      .ok [.assign "flag" (.not (.var "ready"))] := by
    cbv
  refine ⟨hcompile, fun scope max hrun => ?_⟩
  obtain ⟨e, he, _, huncounted⟩ := (loaded_source_depth hcompile).2 scope max hrun
  obtain rfl : e = .not (.var "ready") := by
    simpa [Program.expressions, Statement.expressionsOfBlock, Statement.expressions] using he
  simp [Expr.uncounted] at huncounted

/-- A sum is one level higher than reading counts, so its source loads under a limit at which its
run ends for its depth. -/
theorem sum_loads_too_deep :
    (withBuiltins ⟨100, 1, 100⟩ .restricted).compile "x = 1 + 1" =
        .ok [.assign "x" (.binary .add (.int 1) (.int 1))] ∧
      (withBuiltins ⟨100, 1, 100⟩ .restricted).run
        [.assign "x" (.binary .add (.int 1) (.int 1))] [] = .error (.tooDeep 1) := by
  constructor
  · cbv
  · rfl

end Evaluator

end SchemaGuard
