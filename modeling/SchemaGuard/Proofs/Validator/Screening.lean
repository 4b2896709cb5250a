import Mathlib
import SchemaGuard.Proofs.Program.Guarding
import SchemaGuard.Validator

/-! # Screened validators

The guard of a compiled validator permits every use in its program, the part that refuses
empty values included. Such a validator judges whatever it is called for, and it judges
alike when its guard is opened.
-/

namespace SchemaGuard

open Outcome

namespace ValidatorRequest

/-- The program that refuses empty values. -/
def refusal : Program :=
  [.branch [(.not (.var "value"),
    [.raise "ValueError" (some (.str "Value cannot be empty"))])] []]

theorem parse_refusalOfEmpty : Program.parse {} refusalOfEmpty = .ok refusal := by
  refine Program.parse_of_scan (by cbv) (by cbv) ⟨?final, ?scan, ?read⟩
  case scan =>
    cbv
    rfl
  case read => cbv

theorem permits_refusal (guard : Guard) : guard.Permits refusal.uses := by
  have hname : isDenied "value" = false := by decide
  have huses : refusal.uses = [.reads "value"] := by
    simp [refusal, Program.uses, Statement.usesOfBlock, Statement.uses, Statement.usesOfBranches,
      Expr.uses, Expr.usesOfOption]
  simp [huses, Guard.check, Guard.checkName, Guard.hides, hname]

theorem permits_opening {request : ValidatorRequest} {opening : Program}
    (hopening : request.opening = .ok opening) (guard : Guard) : guard.Permits opening.uses := by
  unfold ValidatorRequest.opening at hopening
  split at hopening
  · rw [parse_refusalOfEmpty] at hopening
    cases hopening
    exact permits_refusal guard
  · cases hopening
    exact guard.permits_nil

/-- The program of a request is what its source compiles to, after the part that refuses empty
values. -/
theorem program_eq_ok {request : ValidatorRequest} {ev : Evaluator} {program : Program} :
    request.program ev = .ok program ↔
      ∃ body opening, ev.compile request.source = .ok body ∧ request.opening = .ok opening ∧
        opening ++ body = program := by
  unfold ValidatorRequest.program
  simp only [bind_eq_ok, pure_eq_ok, Except.ok.injEq]
  constructor
  · rintro ⟨body, hbody, opening, hopening, rfl⟩
    exact ⟨body, opening, hbody, hopening, rfl⟩
  · rintro ⟨body, opening, hbody, hopening, rfl⟩
    exact ⟨body, hbody, opening, hopening, rfl⟩

/-- The validator that a request gives with a program. -/
def validator (request : ValidatorRequest) (ev : Evaluator) (program : Program) : Validator where
  name := request.name
  field := request.field
  subject := request.subject
  mode := request.mode
  program
  bindings := request.bindings
  evaluator := ev

theorem compile_eq_ok {request : ValidatorRequest} {ev : Evaluator} {validator : Validator} :
    request.compile ev = .ok validator ↔
      ∃ program, request.program ev = .ok program ∧ request.validator ev program = validator := by
  unfold ValidatorRequest.compile ValidatorRequest.validator
  cases request.program ev with
  | error error => simp
  | ok program => simp

/-- A source without a part that refuses empty values compiles to a validator that runs it alone. -/
theorem compile_of_source {request : ValidatorRequest} {ev : Evaluator} {program : Program}
    (hopening : request.opening = .ok []) (hsource : ev.compile request.source = .ok program) :
    request.compile ev = .ok (request.validator ev program) := by
  have hprogram : request.program ev = .ok program :=
    program_eq_ok.mpr ⟨program, [], hsource, hopening, List.nil_append program⟩
  exact compile_eq_ok.mpr ⟨program, hprogram, rfl⟩

end ValidatorRequest

namespace Validator

/-- A validator whose guard permits every use in its program. -/
def Screened (validator : Validator) : Prop :=
  validator.evaluator.guard.Permits validator.program.uses

/-- The validator with another guard. -/
def withGuard (validator : Validator) (guard : Guard) : Validator :=
  { validator with evaluator := validator.evaluator.withGuard guard }

theorem screened_of_compile {request : ValidatorRequest} {ev : Evaluator} {validator : Validator}
    (hcompile : request.compile ev = .ok validator) : validator.Screened := by
  obtain ⟨_, hprogram, rfl⟩ := ValidatorRequest.compile_eq_ok.mp hcompile
  obtain ⟨body, opening, hbody, hopening, rfl⟩ := ValidatorRequest.program_eq_ok.mp hprogram
  have huses : ev.guard.Permits (Statement.usesOfBlock (opening ++ body)) := by
    rw [Statement.usesOfBlock_append]
    exact (ev.guard.permits_append _ _).mpr
      ⟨ValidatorRequest.permits_opening hopening _, (Evaluator.compile_eq_ok.mp hbody).2.2⟩
  exact huses

theorem compile_unrestricted {request : ValidatorRequest} {ev : Evaluator} {validator : Validator}
    (hcompile : request.compile ev = .ok validator) :
    request.compile (ev.withGuard .unrestricted) = .ok (validator.withGuard .unrestricted) := by
  obtain ⟨_, hprogram, rfl⟩ := ValidatorRequest.compile_eq_ok.mp hcompile
  obtain ⟨body, opening, hbody, hopening, rfl⟩ := ValidatorRequest.program_eq_ok.mp hprogram
  have hprogram : request.program (ev.withGuard .unrestricted) = .ok (opening ++ body) :=
    ValidatorRequest.program_eq_ok.mpr
      ⟨body, opening, Evaluator.compile_unrestricted hbody, hopening, rfl⟩
  exact ValidatorRequest.compile_eq_ok.mpr ⟨_, hprogram, rfl⟩

namespace Screened

variable {validator : Validator} (hscreened : validator.Screened)

include hscreened

theorem run_unrefused (scope : Scope) :
    Eval.Unrefused (validator.evaluator.run validator.program scope) :=
  validator.evaluator.run_unrefused hscreened scope

theorem callField_unrefused (value : Value) (context : Table Value) (data : Value) :
    Eval.Unrefused (validator.callField value context data) :=
  (hscreened.run_unrefused _).bind fun _ _ => FailsOnly.ok _

theorem callModel_unrefused (data : Value) (context : Table Value) :
    Eval.Unrefused (validator.callModel data context) :=
  (hscreened.run_unrefused _).bind fun _ _ => FailsOnly.ok _

theorem run_unrestricted (scope : Scope) :
    (validator.evaluator.withGuard .unrestricted).run validator.program scope =
      validator.evaluator.run validator.program scope :=
  Evaluator.run_withGuard hscreened (Guard.permits_of_not_enabled _ rfl _) scope

theorem callField_unrestricted (value : Value) (context : Table Value) (data : Value) :
    (validator.withGuard .unrestricted).callField value context data =
      validator.callField value context data :=
  bind_congr (hscreened.run_unrestricted _) fun _ _ => rfl

theorem callModel_unrestricted (data : Value) (context : Table Value) :
    (validator.withGuard .unrestricted).callModel data context =
      validator.callModel data context :=
  bind_congr (hscreened.run_unrestricted _) fun _ _ => rfl

end Screened

theorem verdict_eq_ok {validator : Validator} {error : EvalError} (herror : error.Unrefused) :
    validator.verdict error = .ok error.message := by
  cases error with
  | forbidden capability => exact absurd rfl (EvalError.unrefused_iff.mp herror capability)
  | _ => rfl

end Validator

end SchemaGuard
