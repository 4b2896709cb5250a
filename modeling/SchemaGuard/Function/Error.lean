/-! # Errors of functions

Why a call of a function, or its registration, fails, and the wording of each reason.
-/

namespace SchemaGuard

/-- Why a call or a registration fails. -/
inductive CallError where
  | wrongCount (function expected : String) (actual : Nat)
  | badArgument (function reason : String)
  | unknownFunction (function : String)
  | registryLocked
  | overflow
deriving DecidableEq, Repr

/-- The wording of a failed call. -/
def CallError.message : CallError → String
  | wrongCount function expected actual =>
      "Function '" ++ function ++ "' expects " ++ expected ++ " arguments, got " ++ toString actual
  | badArgument function reason =>
      "Invalid argument for function '" ++ function ++ "': " ++ reason
  | unknownFunction function => "Unknown function: " ++ function
  | registryLocked => "Function registry is locked"
  | overflow => "Numeric overflow in operation"

end SchemaGuard
