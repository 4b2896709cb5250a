import SchemaGuard.Function.Error
import SchemaGuard.Value

/-! # Function registries

A registry binds names to functions with a number of arguments. Once it is locked its
bindings stay as they are. Two registries that bind a name to the same function answer
every call of that name alike.
-/

namespace SchemaGuard

/-- How many arguments a function takes. -/
inductive Arity where
  | exactly (count : Nat)
  | range (least : Nat) (most : Option Nat)
deriving DecidableEq, Repr

/-- The error for a number of arguments that a function does not take. -/
def Arity.error? (arity : Arity) (function : String) (actual : Nat) : Option CallError :=
  match arity with
  | exactly count =>
      if actual = count then none else some (.wrongCount function (toString count) actual)
  | range least most =>
      if actual < least then some (.wrongCount function ("at least " ++ toString least) actual)
      else match most with
        | some most =>
            if most < actual then
              some (.wrongCount function ("at most " ++ toString most) actual)
            else none
        | none => none

/-- A function on values. -/
structure Function where
  name : String
  arity : Arity
  apply : List Value → Except CallError Value

/-- Applies a function to a permitted number of arguments. -/
def Function.call (function : Function) (args : List Value) : Except CallError Value :=
  match function.arity.error? function.name args.length with
  | some error => .error error
  | none => function.apply args

/-- Functions by name, and whether the bindings are final. -/
structure Registry where
  functions : Table Function
  locked : Bool

namespace Registry

/-- Whether a name is bound. -/
def has (registry : Registry) (name : String) : Bool :=
  Table.contains registry.functions name

/-- The bound names. -/
def names (registry : Registry) : List String :=
  Table.keys registry.functions

/-- The registry with its bindings made final. -/
def lock (registry : Registry) : Registry :=
  { registry with locked := true }

/-- The registry with one more function, or with one in place of another of its name. -/
def register (registry : Registry) (function : Function) : Except CallError Registry :=
  if registry.locked then .error .registryLocked
  else .ok { registry with functions := Table.insert registry.functions function.name function }

/-- Calls the function of a name. -/
def call (registry : Registry) (name : String) (args : List Value) : Except CallError Value :=
  match Table.get? registry.functions name with
  | some function => function.call args
  | none => .error (.unknownFunction name)

end Registry

end SchemaGuard
