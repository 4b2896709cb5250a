import SchemaGuard.Eval.Run
import SchemaGuard.Expr.Parser
import SchemaGuard.Function.Library

/-! # The expression engine

An engine screens a source, reads it, screens what it has read, and runs it. The depth
that limits reading is the depth that limits evaluation.
-/

namespace SchemaGuard

/-- Why a source has no value: it is refused, or its evaluation fails. -/
inductive SourceError where
  | parse (error : ParseError)
  | eval (error : EvalError)
deriving DecidableEq

/-- The wording of a failure with its stage. -/
def SourceError.message : SourceError → String
  | parse error => "Parse error: " ++ error.message
  | eval error => "Evaluation error: " ++ error.message

/-- The capability that a screen or the guard refused. -/
def SourceError.capability? : SourceError → Option String
  | parse error => error.capability?
  | eval error => error.capability?

namespace Evaluator

/-- The limits under which an evaluator's sources are read. -/
def parseLimits (ev : Evaluator) : ParseLimits :=
  ⟨ev.limits.maxCallDepth, ev.limits.maxSourceLength⟩

/-- The evaluator with the built-in functions. -/
def withBuiltins (limits : Limits) (guard : Guard) : Evaluator :=
  ⟨limits, guard, Registry.restricted⟩

/-- A refusal of a screen as a reason to refuse the source. -/
def screened (check : Except Forbidden Unit) : Except ParseError Unit :=
  match check with
  | .ok () => .ok ()
  | .error refusal => .error (.forbidden refusal.capability)

/-- Screens and reads the source of a program. -/
def compile (ev : Evaluator) (source : String) : Except ParseError Program := do
  screened (ev.guard.screenSource source)
  let program ← Program.parse ev.parseLimits source
  screened (ev.guard.screenProgram program)
  pure program

/-- Screens and reads the source of an expression. -/
def compileExpr (ev : Evaluator) (source : String) : Except ParseError Expr := do
  screened (ev.guard.screenSource source)
  let e ← Expr.parse ev.parseLimits source
  screened (ev.guard.screenProgram [.expr e])
  pure e

/-- The value of the source of an expression in a scope. -/
def evaluateSource (ev : Evaluator) (source : String) (scope : Scope) :
    Except SourceError Value :=
  match ev.compileExpr source with
  | .error error => .error (.parse error)
  | .ok e =>
      match ev.evaluate e scope with
      | .error error => .error (.eval error)
      | .ok value => .ok value

end Evaluator

end SchemaGuard
