import SchemaGuard.Expr.Syntax
import SchemaGuard.Function.Error

/-! # Errors of running programs

Why the evaluation of an expression or the run of a program fails, and the wording of
each reason. A refused capability is told apart from all other failures.
-/

namespace SchemaGuard

/-- A use of a value that its kind does not permit. -/
inductive KindFault where
  | notIterable (kind : String)
  | notCallable (kind : String)
  | badIndex (container position : String)
  | operands (op : BinaryOp) (left right : String)
  | negation (kind : String)
  | unordered (op : CompareOp) (left right : String)
  | noContainer (item container : String)
deriving DecidableEq, Repr

/-- The wording of a use that a kind does not permit. -/
def KindFault.message : KindFault → String
  | notIterable kind => "'" ++ kind ++ "' object is not iterable"
  | notCallable kind => "'" ++ kind ++ "' object is not callable"
  | badIndex container position =>
      "'" ++ container ++ "' indices must be valid, not " ++ position
  | operands op left right =>
      "Cannot " ++ op.verb ++ " values of type " ++ left ++ " and " ++ right
  | negation kind => "Cannot negate value of type " ++ kind
  | unordered op left right =>
      "'" ++ op.symbol ++ "' not supported between " ++ left ++ " and " ++ right
  | noContainer item container =>
      "'in' not supported between " ++ item ++ " and " ++ container

/-- Why a run fails. -/
inductive EvalError where
  | raised (kind message : String)
  | forbidden (capability : String)
  | undefinedVariable (name : String)
  | missingAttribute (kind name : String)
  | indexOutOfRange (index : Int)
  | unknownModule (name : String)
  | wrongKind (fault : KindFault)
  | divisionByZero
  | callFailed (function : String) (cause : CallError)
  | tooManySteps (max : Nat)
  | tooDeep (max : Nat)
  | overflow
deriving DecidableEq, Repr

namespace EvalError

/-- The wording of a failure. -/
def message : EvalError → String
  | raised _ message => message
  | forbidden capability => "Forbidden capability '" ++ capability ++ "'"
  | undefinedVariable name => "Undefined variable '" ++ name ++ "'"
  | missingAttribute kind name => "'" ++ kind ++ "' value has no attribute '" ++ name ++ "'"
  | indexOutOfRange index => "Index " ++ toString index ++ " out of range"
  | unknownModule name => "No module named '" ++ name ++ "'"
  | wrongKind fault => "Type error: " ++ fault.message
  | divisionByZero => "Division by zero"
  | callFailed function cause => "Function '" ++ function ++ "' error: " ++ cause.message
  | tooManySteps max => "Validator exceeded maximum iterations (" ++ toString max ++ ")"
  | tooDeep max => "Validator exceeded maximum call depth (" ++ toString max ++ ")"
  | overflow => "Numeric overflow in operation"

/-- The capability that the guard refused, if that is the failure. -/
def capability? : EvalError → Option String
  | forbidden capability => some capability
  | _ => none

/-- Whether the failure is a refused capability. -/
def isForbidden (error : EvalError) : Bool :=
  error.capability?.isSome

end EvalError

end SchemaGuard
