import SchemaGuard.Eval.Operators
import SchemaGuard.Function.Registry
import SchemaGuard.Guard
import SchemaGuard.Value.Kind

/-! # Running programs

Expressions are evaluated in a scope that they cannot change; every nested evaluation is
one level deeper, and the depth is limited. Statements change the scope, and every
statement and every round of a loop is a step, of which there are only so many.
-/

namespace SchemaGuard

/-- Variables in the order in which they were first bound. -/
abbrev Scope := Table Value

/-- The limits of a run and of the sources that may be run. -/
structure Limits where
  maxIterations : Nat := 100000
  maxCallDepth : Nat := 64
  maxSourceLength : Nat := 16384
deriving DecidableEq, Repr

/-- What surrounds a run: its limits, the guard, and the functions that can be called. -/
structure Evaluator where
  limits : Limits
  guard : Guard
  functions : Registry

namespace Eval

/-- The importable module of character sets. -/
def stringModule : Value :=
  let lower := "abcdefghijklmnopqrstuvwxyz"
  let upper := "ABCDEFGHIJKLMNOPQRSTUVWXYZ"
  .dict [
    ("ascii_letters", .str (lower ++ upper)),
    ("ascii_lowercase", .str lower),
    ("ascii_uppercase", .str upper),
    ("digits", .str "0123456789"),
    ("hexdigits", .str "0123456789abcdefABCDEF"),
    ("octdigits", .str "01234567"),
    ("punctuation", .str "!\"#$%&'()*+,-./:;<=>?@[\\]^_\x60\x7b|\x7d~"),
    ("whitespace", .str " \t\n\r\x0b\x0c")]

/-- A refusal of the guard as a failure of the run. -/
def guarded (check : Except Forbidden Unit) : Except EvalError Unit :=
  match check with
  | .ok () => .ok ()
  | .error refusal => .error (.forbidden refusal.capability)

/-- One level deeper, unless that is too deep. -/
def enter (limits : Limits) (depth : Nat) : Except EvalError Nat :=
  if depth + 1 ≤ limits.maxCallDepth then .ok (depth + 1)
  else .error (.tooDeep limits.maxCallDepth)

/-- The value of a name. -/
def resolve (ev : Evaluator) (scope : Scope) (name : String) : Except EvalError Value := do
  guarded (ev.guard.checkName name)
  match Table.get? scope name with
  | some value => pure value
  | none => .error (.undefinedVariable name)

/-- Follows the parts of a path after its root. -/
def followPath (ev : Evaluator) : Value → List String → Except EvalError Value
  | value, [] => .ok value
  | value, name :: rest => do
      guarded (ev.guard.checkAttribute name)
      let inner ← readAttribute value name
      followPath ev inner rest

/-- The value of a path; the empty path is null. -/
def resolvePath (ev : Evaluator) (scope : Scope) : List String → Except EvalError Value
  | [] => .ok .null
  | root :: rest => do
      let value ← resolve ev scope root
      followPath ev value rest

/-- Whether a bare name stands for a kind of values where a kind is expected. -/
def namesKind (scope : Scope) (name : String) : Bool :=
  !Table.contains scope name && (Value.null.hasKind? name).isSome

/-- Calls a function by name. -/
def callFunction (ev : Evaluator) (name : String) (args : List Value) : Except EvalError Value :=
  match ev.functions.call name args with
  | .ok value => .ok value
  | .error cause => .error (.callFailed name cause)

/-- Whether an argument of a call may name a kind: only the second one of `isinstance` may. -/
def takesKind (function : String) (position : Nat) : Bool :=
  function == "isinstance" && position == 1

mutual

/-- The value of an expression at a depth. Where a kind is expected, a bare name of a kind stands
for itself, and so do the names in a list. -/
def evaluate (ev : Evaluator) (scope : Scope) (kindExpected : Bool) (depth : Nat) :
    Expr → Except EvalError Value
  | .null => do
      let _ ← enter ev.limits depth
      pure .null
  | .bool b => do
      let _ ← enter ev.limits depth
      pure (.bool b)
  | .int n => do
      let _ ← enter ev.limits depth
      pure (.int n)
  | .float x => do
      let _ ← enter ev.limits depth
      ofReal x.finite?
  | .str s => do
      let _ ← enter ev.limits depth
      pure (.str s)
  | .list items =>
      if kindExpected then (evaluateList ev scope true depth items).map .list
      else do
        let depth ← enter ev.limits depth
        let values ← evaluateList ev scope false depth items
        pure (.list values)
  | .var name =>
      if kindExpected && namesKind scope name then do
        guarded (ev.guard.checkName name)
        pure (.str name)
      else do
        let _ ← enter ev.limits depth
        resolve ev scope name
  | .path parts => do
      let _ ← enter ev.limits depth
      resolvePath ev scope parts
  | .binary op left right => do
      let depth ← enter ev.limits depth
      let l ← evaluate ev scope false depth left
      let r ← evaluate ev scope false depth right
      arithmetic op l r ev.limits.maxIterations
  | .compare first links => do
      let depth ← enter ev.limits depth
      let left ← evaluate ev scope false depth first
      evaluateLinks ev scope depth left links
  | .negate operand => do
      let depth ← enter ev.limits depth
      let value ← evaluate ev scope false depth operand
      negate value
  | .and left right => do
      let depth ← enter ev.limits depth
      let l ← evaluate ev scope false depth left
      if l.truthy then evaluate ev scope false depth right else pure l
  | .or left right => do
      let depth ← enter ev.limits depth
      let l ← evaluate ev scope false depth left
      if l.truthy then pure l else evaluate ev scope false depth right
  | .not operand => do
      let depth ← enter ev.limits depth
      let value ← evaluate ev scope false depth operand
      pure (.bool (!value.truthy))
  | .attr object name => do
      let depth ← enter ev.limits depth
      guarded (ev.guard.checkAttribute name)
      let receiver ← evaluate ev scope false depth object
      readAttribute receiver name
  | .index object position => do
      let depth ← enter ev.limits depth
      let receiver ← evaluate ev scope false depth object
      let index ← evaluate ev scope false depth position
      readIndex receiver index
  | .call (.var name) args => do
      let depth ← enter ev.limits depth
      guarded (ev.guard.checkName name)
      if ev.functions.has name then
        let values ← evaluateArgs ev scope depth name 0 args
        callFunction ev name values
      else .error (.undefinedVariable name)
  | .call (.attr object name) args => do
      let depth ← enter ev.limits depth
      guarded (ev.guard.checkAttribute name)
      let receiver ← evaluate ev scope false depth object
      if ev.functions.has name then
        let values ← evaluateArgs ev scope depth name 0 args
        callFunction ev name (receiver :: values)
      else .error (.missingAttribute receiver.kindName name)
  | .call callee _ => do
      let depth ← enter ev.limits depth
      let value ← evaluate ev scope false depth callee
      .error (.wrongKind (.notCallable value.kindName))
  | .cond condition whenTrue whenFalse => do
      let depth ← enter ev.limits depth
      let value ← evaluate ev scope false depth condition
      if value.truthy then evaluate ev scope false depth whenTrue
      else evaluate ev scope false depth whenFalse

/-- The values of expressions in order. -/
def evaluateList (ev : Evaluator) (scope : Scope) (kindExpected : Bool) (depth : Nat) :
    List Expr → Except EvalError (List Value)
  | [] => .ok []
  | e :: rest => do
      let value ← evaluate ev scope kindExpected depth e
      let values ← evaluateList ev scope kindExpected depth rest
      pure (value :: values)

/-- The values of the arguments of a call, from the given position on. -/
def evaluateArgs (ev : Evaluator) (scope : Scope) (depth : Nat) (function : String) :
    Nat → List Expr → Except EvalError (List Value)
  | _, [] => .ok []
  | position, e :: rest => do
      let value ← evaluate ev scope (takesKind function position) depth e
      let values ← evaluateArgs ev scope depth function (position + 1) rest
      pure (value :: values)

/-- Whether all links of a comparison hold; operands after the first false link are not
evaluated. -/
def evaluateLinks (ev : Evaluator) (scope : Scope) (depth : Nat) :
    Value → List (CompareOp × Expr) → Except EvalError Value
  | _, [] => .ok (.bool true)
  | left, (op, operand) :: rest => do
      let right ← evaluate ev scope false depth operand
      let holds ← compare op left right
      if holds then evaluateLinks ev scope depth right rest else pure (.bool false)

end

/-- What a run has reached: the steps taken and the variables. -/
structure State where
  steps : Nat
  scope : Scope

/-- One more step, unless there have been too many. -/
def tick (limits : Limits) (state : State) : Except EvalError State :=
  if state.steps + 1 ≤ limits.maxIterations then .ok { state with steps := state.steps + 1 }
  else .error (.tooManySteps limits.maxIterations)

/-- The state with a variable bound. -/
def State.bind (state : State) (name : String) (value : Value) : State :=
  { state with scope := Table.insert state.scope name value }

/-- The value of an expression in the scope that a run has reached. -/
def evaluateIn (ev : Evaluator) (state : State) (e : Expr) : Except EvalError Value :=
  evaluate ev state.scope false 0 e

/-- The text of a message, or a fallback where there is none. -/
def messageText (ev : Evaluator) (state : State) (fallback : String) :
    Option Expr → Except EvalError String
  | some e => (evaluateIn ev state e).map Value.display
  | none => .ok fallback

/-- Binds the module that a path names, if there is one. -/
def importModule (ev : Evaluator) (state : State) (path : List String) :
    Except EvalError State := do
  guarded (ev.guard.checkModule path)
  if path = ["string"] then pure (state.bind "string" stringModule)
  else .error (.unknownModule (String.intercalate "." path))

mutual

/-- The state after a statement. -/
def execute (ev : Evaluator) (state : State) : Statement → Except EvalError State
  | .pass => tick ev.limits state
  | .expr e => do
      let state ← tick ev.limits state
      let _ ← evaluateIn ev state e
      pure state
  | .assign target value => do
      let state ← tick ev.limits state
      guarded (ev.guard.checkName target)
      let value ← evaluateIn ev state value
      pure (state.bind target value)
  | .branch branches otherwise => do
      let state ← tick ev.limits state
      match ← executeBranches ev state branches with
      | some state => pure state
      | none => executeBlock ev state otherwise
  | .loop name iterable body => do
      let state ← tick ev.limits state
      guarded (ev.guard.checkName name)
      let source ← evaluateIn ev state iterable
      match source.iterate? with
      | some items =>
          items.foldlM (fun state item => do
            let state ← tick ev.limits state
            executeBlock ev (state.bind name item) body) state
      | none => .error (.wrongKind (.notIterable source.kindName))
  | .raise kind message => do
      let state ← tick ev.limits state
      let message ← messageText ev state kind message
      .error (.raised kind message)
  | .assert condition message => do
      let state ← tick ev.limits state
      let value ← evaluateIn ev state condition
      if value.truthy then pure state
      else
        let message ← messageText ev state "Assertion failed" message
        .error (.raised "AssertionError" message)
  | .importModule path => do
      let state ← tick ev.limits state
      importModule ev state path

/-- The state after statements in order. -/
def executeBlock (ev : Evaluator) (state : State) : List Statement → Except EvalError State
  | [] => .ok state
  | statement :: rest => do
      let state ← execute ev state statement
      executeBlock ev state rest

/-- The state after the body of the first branch whose condition holds; `none` if there is no such
branch. -/
def executeBranches (ev : Evaluator) (state : State) :
    List (Expr × List Statement) → Except EvalError (Option State)
  | [] => .ok none
  | (condition, body) :: rest => do
      let value ← evaluateIn ev state condition
      if value.truthy then
        let state ← executeBlock ev state body
        pure (some state)
      else executeBranches ev state rest

end

end Eval

namespace Evaluator

/-- Runs a program from a scope and gives the scope at its end. -/
def run (ev : Evaluator) (program : Program) (scope : Scope) : Except EvalError Scope :=
  (Eval.executeBlock ev ⟨0, scope⟩ program).map Eval.State.scope

/-- The value of an expression in a scope. -/
def evaluate (ev : Evaluator) (e : Expr) (scope : Scope) : Except EvalError Value :=
  Eval.evaluate ev scope false 0 e

end Evaluator

end SchemaGuard
