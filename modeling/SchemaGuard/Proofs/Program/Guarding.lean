import SchemaGuard.Engine
import SchemaGuard.Proofs.Program.Coupling
import SchemaGuard.Proofs.Program.Refusal
import SchemaGuard.Proofs.Source.Sequence

/-! # What the guard changes

The guard decides which sources become programs. It does not decide what a program does:
under every guard that permits the uses in it, a program runs alike. A source that an
evaluator compiles has passed both screens, so it compiles to the same program, and that
program runs alike, when the guard is opened.
-/

namespace SchemaGuard

open Outcome

namespace Evaluator

/-- The evaluator with another guard. -/
def withGuard (ev : Evaluator) (guard : Guard) : Evaluator :=
  { ev with guard }

/-- An evaluator and one with another guard, run from the same scope. -/
def guardCoupling (ev : Evaluator) (guard : Guard) : Coupling ev (ev.withGuard guard) where
  Related := Eq
  limits := rfl
  insert name value hscope := by rw [hscope]

theorem guardCoupling_alike {ev : Evaluator} {guard : Guard} {use : Use}
    (hcheck : ev.guard.check use = .ok ()) (hcheck' : guard.check use = .ok ()) :
    (ev.guardCoupling guard).Alike use := by
  rintro scope _ rfl
  have hguarded : Eval.guarded (ev.guard.check use) = Eval.guarded (guard.check use) := by
    rw [hcheck, hcheck']
  refine ⟨hguarded, ?_⟩
  cases use with
  | reads name =>
      have hresolve : Eval.resolve ev scope name = Eval.resolve (ev.withGuard guard) scope name :=
        bind_congr hguarded fun _ _ => rfl
      exact ⟨hresolve, rfl⟩
  | calls name | invokes name => exact fun _ => ⟨rfl, fun _ => rfl⟩
  | binds name | imports name | selects name => exact trivial

/-- Two guards that permit the uses in a program let it run alike. -/
theorem run_withGuard {ev : Evaluator} {guard : Guard} {program : Program}
    (huses : ev.guard.Permits program.uses) (huses' : guard.Permits program.uses)
    (scope : Scope) : (ev.withGuard guard).run program scope = ev.run program scope := by
  have hagree := (ev.guardCoupling guard).run_coupled
    (fun use huse => guardCoupling_alike (huses use huse) (huses' use huse)) (Eq.refl scope)
  exact (Agree.eq hagree).symm

/-! ## Compilation -/

theorem screened_eq_ok {check : Except Forbidden Unit} :
    screened check = .ok () ↔ check = .ok () := by
  cases check <;> simp [screened]

/-- A source compiles to the program that it denotes if neither screen refuses it. -/
theorem compile_eq_ok {ev : Evaluator} {source : String} {program : Program} :
    ev.compile source = .ok program ↔
      ev.guard.screenSource source = .ok () ∧ Program.parse ev.parseLimits source = .ok program ∧
        ev.guard.Permits program.uses := by
  unfold compile
  constructor
  · intro hcompile
    obtain ⟨_, hsource, hcompile⟩ := bind_eq_ok.mp hcompile
    obtain ⟨parsed, hparse, hcompile⟩ := bind_eq_ok.mp hcompile
    obtain ⟨_, hprogram, hcompile⟩ := bind_eq_ok.mp hcompile
    cases hcompile
    exact ⟨screened_eq_ok.mp hsource, hparse,
      (ev.guard.screenProgram_eq_ok_iff _).mp (screened_eq_ok.mp hprogram)⟩
  · rintro ⟨hsource, hparse, huses⟩
    rw [screened_eq_ok.mpr hsource, hparse, ok_bind, ok_bind,
      screened_eq_ok.mpr ((ev.guard.screenProgram_eq_ok_iff _).mpr huses)]
    rfl

/-- The compilation of a source that stands at the margin: screening, reading, screening. -/
theorem compile_of_scan {ev : Evaluator} {source : String} {program : Program}
    (hsource : ev.guard.screenSource source = .ok ())
    (hdedent : Text.dedent source.toList = source.toList)
    (hlength : source.utf8ByteSize ≤ ev.parseLimits.maxLength)
    (hread : ∃ final, Lexer.scan {} source.toList = .ok final ∧
      Parser.program ev.parseLimits (Parser.budget final.finish)
        (Parser.skipNewlines final.finish) = .ok program)
    (hprogram : ev.guard.screenProgram program = .ok ()) : ev.compile source = .ok program :=
  compile_eq_ok.mpr ⟨hsource, Program.parse_of_scan hdedent hlength hread,
    (ev.guard.screenProgram_eq_ok_iff _).mp hprogram⟩

theorem compile_unrestricted {ev : Evaluator} {source : String} {program : Program}
    (hcompile : ev.compile source = .ok program) :
    (ev.withGuard .unrestricted).compile source = .ok program := by
  obtain ⟨_, hparse, _⟩ := compile_eq_ok.mp hcompile
  exact compile_eq_ok.mpr ⟨rfl, hparse, Guard.permits_of_not_enabled _ rfl _⟩

end Evaluator

end SchemaGuard
