import SchemaGuard.Proofs.Program.Nesting

/-! # The counter of levels

The depth of an evaluation can be kept in a counter that the whole run shares: it goes up where an
expression is entered and down where the expression is left, be it with a value or with a failure.
Every evaluation then leaves the counter as it has found it, so it comes to what it comes to at
the depth that the counter shows. A run ends for its depth only where the expressions of the program
are higher than the depth permits.
-/

namespace SchemaGuard

open Outcome

namespace Eval

/-! ## Computations that count -/

/-- A computation that reads and changes a counter. A failure leaves the counter where it is. -/
abbrev Counting := EStateM EvalError Nat

namespace Counting

variable {α β : Type}

/-- An outcome with the counter at a count. -/
def settled (outcome : Except EvalError α) (count : Nat) : EStateM.Result EvalError Nat α :=
  match outcome with
  | .ok a => .ok a count
  | .error error => .error error count

theorem settled_eq_error {outcome : Except EvalError α} {count after : Nat} {error : EvalError} :
    settled outcome count = .error error after ↔ outcome = .error error ∧ count = after := by
  cases outcome <;> simp [settled]

/-- An outcome that does not touch the counter. -/
def lift (outcome : Except EvalError α) : Counting α :=
  settled outcome

/-- Counts one level more, unless that is too many, and counts it back however the computation at
that level ends. -/
def nested (limits : Limits) (inner : Counting α) : Counting α := fun count =>
  let deeper := count + 1
  if limits.maxCallDepth < deeper then .error (.tooDeep limits.maxCallDepth) (deeper - 1)
  else
    match inner deeper with
    | .ok a after => .ok a (after - 1)
    | .error error after => .error error (after - 1)

mutual

/-- The value of an expression, with the levels counted. -/
def evaluate (ev : Evaluator) (scope : Scope) (kindExpected : Bool) : Expr → Counting Value
  | .null => nested ev.limits (pure .null)
  | .bool b => nested ev.limits (pure (.bool b))
  | .int n => nested ev.limits (pure (.int n))
  | .float x => nested ev.limits (lift (ofReal x.finite?))
  | .str s => nested ev.limits (pure (.str s))
  | .list items =>
      if kindExpected then do
        let values ← evaluateList ev scope true items
        pure (.list values)
      else nested ev.limits do
        let values ← evaluateList ev scope false items
        pure (.list values)
  | .var name =>
      if kindExpected && namesKind scope name then do
        lift (guarded (ev.guard.checkName name))
        pure (.str name)
      else nested ev.limits (lift (resolve ev scope name))
  | .path parts => nested ev.limits (lift (resolvePath ev scope parts))
  | .binary op left right => nested ev.limits do
      let l ← evaluate ev scope false left
      let r ← evaluate ev scope false right
      lift (arithmetic op l r ev.limits.maxIterations)
  | .compare first links => nested ev.limits do
      let left ← evaluate ev scope false first
      evaluateLinks ev scope left links
  | .negate operand => nested ev.limits do
      let value ← evaluate ev scope false operand
      lift (negate value)
  | .and left right => nested ev.limits do
      let l ← evaluate ev scope false left
      if l.truthy then evaluate ev scope false right else pure l
  | .or left right => nested ev.limits do
      let l ← evaluate ev scope false left
      if l.truthy then pure l else evaluate ev scope false right
  | .not operand => nested ev.limits do
      let value ← evaluate ev scope false operand
      pure (.bool (!value.truthy))
  | .attr object name => nested ev.limits do
      lift (guarded (ev.guard.checkAttribute name))
      let receiver ← evaluate ev scope false object
      lift (readAttribute receiver name)
  | .index object position => nested ev.limits do
      let receiver ← evaluate ev scope false object
      let index ← evaluate ev scope false position
      lift (readIndex receiver index)
  | .call (.var name) args => nested ev.limits do
      lift (guarded (ev.guard.checkName name))
      if ev.functions.has name then
        let values ← evaluateArgs ev scope name 0 args
        lift (callFunction ev name values)
      else throw (.undefinedVariable name)
  | .call (.attr object name) args => nested ev.limits do
      lift (guarded (ev.guard.checkAttribute name))
      let receiver ← evaluate ev scope false object
      if ev.functions.has name then
        let values ← evaluateArgs ev scope name 0 args
        lift (callFunction ev name (receiver :: values))
      else throw (.missingAttribute receiver.kindName name)
  | .call callee _ => nested ev.limits do
      let value ← evaluate ev scope false callee
      throw (.wrongKind (.notCallable value.kindName))
  | .cond condition whenTrue whenFalse => nested ev.limits do
      let value ← evaluate ev scope false condition
      if value.truthy then evaluate ev scope false whenTrue
      else evaluate ev scope false whenFalse

/-- The values of expressions in order, with the levels counted. -/
def evaluateList (ev : Evaluator) (scope : Scope) (kindExpected : Bool) :
    List Expr → Counting (List Value)
  | [] => pure []
  | e :: rest => do
      let value ← evaluate ev scope kindExpected e
      let values ← evaluateList ev scope kindExpected rest
      pure (value :: values)

/-- The values of the arguments of a call, with the levels counted. -/
def evaluateArgs (ev : Evaluator) (scope : Scope) (function : String) :
    Nat → List Expr → Counting (List Value)
  | _, [] => pure []
  | position, e :: rest => do
      let value ← evaluate ev scope (takesKind function position) e
      let values ← evaluateArgs ev scope function (position + 1) rest
      pure (value :: values)

/-- Whether all links of a comparison hold, with the levels counted. -/
def evaluateLinks (ev : Evaluator) (scope : Scope) :
    Value → List (CompareOp × Expr) → Counting Value
  | _, [] => pure (.bool true)
  | left, (op, operand) :: rest => do
      let right ← evaluate ev scope false operand
      let holds ← lift (compare op left right)
      if holds then evaluateLinks ev scope right rest else pure (.bool false)

end

/-- The text of a message, or a fallback where there is none, with the levels counted. -/
def messageText (ev : Evaluator) (state : State) (fallback : String) :
    Option Expr → Counting String
  | some e => do
      let value ← evaluate ev state.scope false e
      pure value.display
  | none => pure fallback

mutual

/-- The state after a statement, with the levels counted. -/
def execute (ev : Evaluator) (state : State) : Statement → Counting State
  | .pass => lift (tick ev.limits state)
  | .expr e => do
      let state ← lift (tick ev.limits state)
      let _ ← evaluate ev state.scope false e
      pure state
  | .assign target value => do
      let state ← lift (tick ev.limits state)
      lift (guarded (ev.guard.checkName target))
      let value ← evaluate ev state.scope false value
      pure (state.bind target value)
  | .branch branches otherwise => do
      let state ← lift (tick ev.limits state)
      match ← executeBranches ev state branches with
      | some state => pure state
      | none => executeBlock ev state otherwise
  | .loop name iterable body => do
      let state ← lift (tick ev.limits state)
      lift (guarded (ev.guard.checkName name))
      let source ← evaluate ev state.scope false iterable
      match source.iterate? with
      | some items =>
          items.foldlM (fun state item => do
            let state ← lift (tick ev.limits state)
            executeBlock ev (state.bind name item) body) state
      | none => throw (.wrongKind (.notIterable source.kindName))
  | .raise kind message => do
      let state ← lift (tick ev.limits state)
      let message ← messageText ev state kind message
      throw (.raised kind message)
  | .assert condition message => do
      let state ← lift (tick ev.limits state)
      let value ← evaluate ev state.scope false condition
      if value.truthy then pure state
      else
        let message ← messageText ev state "Assertion failed" message
        throw (.raised "AssertionError" message)
  | .importModule path => do
      let state ← lift (tick ev.limits state)
      lift (importModule ev state path)

/-- The state after statements in order, with the levels counted. -/
def executeBlock (ev : Evaluator) (state : State) : List Statement → Counting State
  | [] => pure state
  | statement :: rest => do
      let state ← execute ev state statement
      executeBlock ev state rest

/-- The state after the body of the first branch whose condition holds, with the levels counted. -/
def executeBranches (ev : Evaluator) (state : State) :
    List (Expr × List Statement) → Counting (Option State)
  | [] => pure none
  | (condition, body) :: rest => do
      let value ← evaluate ev state.scope false condition
      if value.truthy then
        let state ← executeBlock ev state body
        pure (some state)
      else executeBranches ev state rest

end

/-- Runs a program with the levels counted. -/
def run (ev : Evaluator) (program : Program) (scope : Scope) : Counting Scope := do
  let state ← executeBlock ev ⟨0, scope⟩ program
  pure state.scope

/-! ## The counter is restored -/

/-- From a count a computation comes to an outcome, and the counter is back at the count. -/
def Restores (computation : Counting α) (count : Nat) (outcome : Except EvalError α) : Prop :=
  computation count = settled outcome count

namespace Restores

variable {computation : Counting α} {count : Nat} {outcome : Except EvalError α}

theorem pure (a : α) : Restores (Pure.pure a) count (.ok a) := rfl

theorem throw (error : EvalError) :
    Restores (throw error : Counting α) count (.error error) := rfl

theorem lift (outcome : Except EvalError α) : Restores (lift outcome) count outcome := rfl

theorem bind {next : α → Counting β} {next' : α → Except EvalError β}
    (hfirst : Restores computation count outcome)
    (hnext : ∀ a, Restores (next a) count (next' a)) :
    Restores (computation >>= next) count (outcome >>= next') := by
  show EStateM.bind computation next count = _
  rw [EStateM.bind, hfirst]
  cases outcome with
  | error error => rfl
  | ok a => exact hnext a

theorem map {f : α → β} (hfirst : Restores computation count outcome) :
    Restores (computation >>= fun a => Pure.pure (f a)) count (outcome.map f) := by
  have hbind : Restores (computation >>= fun a => Pure.pure (f a)) count
      (outcome >>= fun a => .ok (f a)) := hfirst.bind fun a => pure (f a)
  cases outcome with
  | error error => exact hbind
  | ok a => exact hbind

theorem foldlM {γ : Type} {step : α → γ → Counting α} {step' : α → γ → Except EvalError α}
    (items : List γ) (hstep : ∀ a item, Restores (step a item) count (step' a item)) (start : α) :
    Restores (items.foldlM step start) count (items.foldlM step' start) := by
  induction items generalizing start with
  | nil => exact pure start
  | cons item rest ih => exact (hstep start item).bind ih

/-- A level that is entered is left again, with a result or with a failure. -/
theorem nested {limits : Limits} {inner : Counting α} {next : Nat → Except EvalError α}
    (hinner : Restores inner (count + 1) (next (count + 1))) :
    Restores (nested limits inner) count (enter limits count >>= next) := by
  unfold Restores Counting.nested enter
  split
  next hle =>
    rw [if_neg (Nat.not_lt.mpr hle), hinner, ok_bind]
    cases next (count + 1) with
    | error error => rfl
    | ok a => rfl
  next hdeep =>
    rw [if_pos (Nat.not_le.mp hdeep)]
    rfl

end Restores

/-! ## Expressions -/

mutual

/-- An evaluation comes to what it comes to at the depth that the counter shows, and restores the
counter. -/
theorem evaluate_restores (ev : Evaluator) (scope : Scope) :
    ∀ (e : Expr) (kindExpected : Bool) (count : Nat),
      Restores (evaluate ev scope kindExpected e) count (Eval.evaluate ev scope kindExpected count e)
  | .null, _, _ | .bool _, _, _ | .int _, _, _ | .str _, _, _ => by
      rw [evaluate, Eval.evaluate]
      exact .nested (.pure _)
  | .float x, _, _ => by
      rw [evaluate, Eval.evaluate]
      exact .nested (.lift _)
  | .list items, kindExpected, count => by
      rw [evaluate, Eval.evaluate]
      split
      · exact (evaluateList_restores ev scope items true count).map
      · refine .nested ?_
        exact (evaluateList_restores ev scope items false _).bind fun values => .pure _
  | .var name, kindExpected, count => by
      rw [evaluate, Eval.evaluate]
      split
      · exact (Restores.lift _).bind fun _ => .pure _
      · exact .nested (.lift _)
  | .path parts, _, _ => by
      rw [evaluate, Eval.evaluate]
      exact .nested (.lift _)
  | .binary op left right, _, _ => by
      rw [evaluate, Eval.evaluate]
      refine .nested ?_
      refine (evaluate_restores ev scope left false _).bind fun l => ?_
      exact (evaluate_restores ev scope right false _).bind fun r => .lift _
  | .compare first links, _, _ => by
      rw [evaluate, Eval.evaluate]
      refine .nested ?_
      exact (evaluate_restores ev scope first false _).bind fun left =>
        evaluateLinks_restores ev scope links left _
  | .negate operand, _, _ => by
      rw [evaluate, Eval.evaluate]
      exact .nested ((evaluate_restores ev scope operand false _).bind fun value => .lift _)
  | .and left right, _, _ => by
      rw [evaluate, Eval.evaluate]
      refine .nested ?_
      refine (evaluate_restores ev scope left false _).bind fun l => ?_
      split
      · exact evaluate_restores ev scope right false _
      · exact .pure l
  | .or left right, _, _ => by
      rw [evaluate, Eval.evaluate]
      refine .nested ?_
      refine (evaluate_restores ev scope left false _).bind fun l => ?_
      split
      · exact .pure l
      · exact evaluate_restores ev scope right false _
  | .not operand, _, _ => by
      rw [evaluate, Eval.evaluate]
      exact .nested ((evaluate_restores ev scope operand false _).bind fun value => .pure _)
  | .attr object name, _, _ => by
      rw [evaluate, Eval.evaluate]
      refine .nested ((Restores.lift _).bind fun _ => ?_)
      exact (evaluate_restores ev scope object false _).bind fun receiver => .lift _
  | .index object position, _, _ => by
      rw [evaluate, Eval.evaluate]
      refine .nested ?_
      refine (evaluate_restores ev scope object false _).bind fun receiver => ?_
      exact (evaluate_restores ev scope position false _).bind fun index => .lift _
  | .call callee args, _, _ => by
      have hargs := evaluateArgs_restores ev scope args
      have hcallee := evaluate_restores ev scope callee false
      cases callee with
      | var name =>
          rw [evaluate, Eval.evaluate]
          refine .nested ((Restores.lift _).bind fun _ => ?_)
          split
          · exact (hargs name 0 _).bind fun values => .lift _
          · exact .throw _
      | attr object name =>
          have hobject := evaluate_restores ev scope object false
          rw [evaluate, Eval.evaluate]
          refine .nested ((Restores.lift _).bind fun _ => ?_)
          refine (hobject _).bind fun receiver => ?_
          split
          · exact (hargs name 0 _).bind fun values => .lift _
          · exact .throw _
      | _ =>
          rw [evaluate, Eval.evaluate]
          · exact .nested ((hcallee _).bind fun value => .throw _)
          all_goals
            intros
            contradiction
  | .cond condition whenTrue whenFalse, _, _ => by
      rw [evaluate, Eval.evaluate]
      refine .nested ?_
      refine (evaluate_restores ev scope condition false _).bind fun value => ?_
      split
      · exact evaluate_restores ev scope whenTrue false _
      · exact evaluate_restores ev scope whenFalse false _

theorem evaluateList_restores (ev : Evaluator) (scope : Scope) :
    ∀ (items : List Expr) (kindExpected : Bool) (count : Nat),
      Restores (evaluateList ev scope kindExpected items) count
        (Eval.evaluateList ev scope kindExpected count items)
  | [], _, _ => by
      rw [evaluateList, Eval.evaluateList]
      exact .pure []
  | e :: rest, kindExpected, count => by
      rw [evaluateList, Eval.evaluateList]
      refine (evaluate_restores ev scope e kindExpected count).bind fun value => ?_
      exact (evaluateList_restores ev scope rest kindExpected count).bind fun values => .pure _

theorem evaluateArgs_restores (ev : Evaluator) (scope : Scope) :
    ∀ (args : List Expr) (function : String) (position count : Nat),
      Restores (evaluateArgs ev scope function position args) count
        (Eval.evaluateArgs ev scope count function position args)
  | [], _, _, _ => by
      rw [evaluateArgs, Eval.evaluateArgs]
      exact .pure []
  | e :: rest, function, position, count => by
      rw [evaluateArgs, Eval.evaluateArgs]
      refine (evaluate_restores ev scope e _ count).bind fun value => ?_
      exact (evaluateArgs_restores ev scope rest function (position + 1) count).bind
        fun values => .pure _

theorem evaluateLinks_restores (ev : Evaluator) (scope : Scope) :
    ∀ (links : List (CompareOp × Expr)) (left : Value) (count : Nat),
      Restores (evaluateLinks ev scope left links) count
        (Eval.evaluateLinks ev scope count left links)
  | [], _, _ => by
      rw [evaluateLinks, Eval.evaluateLinks]
      exact .pure _
  | (op, operand) :: rest, left, count => by
      rw [evaluateLinks, Eval.evaluateLinks]
      refine (evaluate_restores ev scope operand false count).bind fun right => ?_
      refine (Restores.lift _).bind fun holds => ?_
      split
      · exact evaluateLinks_restores ev scope rest right count
      · exact .pure _

end

/-! ## Statements -/

theorem messageText_restores (ev : Evaluator) (state : State) (fallback : String)
    (message : Option Expr) :
    Restores (messageText ev state fallback message) 0
      (Eval.messageText ev state fallback message) := by
  cases message with
  | none => exact .pure fallback
  | some e => exact (evaluate_restores ev state.scope e false 0).map

mutual

theorem execute_restores (ev : Evaluator) : ∀ (statement : Statement) (state : State),
    Restores (execute ev state statement) 0 (Eval.execute ev state statement)
  | .pass, state => by
      rw [execute, Eval.execute]
      exact .lift _
  | .expr e, state => by
      rw [execute, Eval.execute]
      refine (Restores.lift _).bind fun state => ?_
      exact (evaluate_restores ev state.scope e false 0).bind fun _ => .pure state
  | .assign target value, state => by
      rw [execute, Eval.execute]
      refine (Restores.lift _).bind fun state => (Restores.lift _).bind fun _ => ?_
      exact (evaluate_restores ev state.scope value false 0).bind fun _ => .pure _
  | .branch branches otherwise, state => by
      rw [execute, Eval.execute]
      refine (Restores.lift _).bind fun state => ?_
      refine (executeBranches_restores ev branches state).bind fun taken => ?_
      cases taken with
      | some state => exact .pure state
      | none => exact executeBlock_restores ev otherwise state
  | .loop name iterable body, state => by
      rw [execute, Eval.execute]
      refine (Restores.lift _).bind fun state => (Restores.lift _).bind fun _ => ?_
      refine (evaluate_restores ev state.scope iterable false 0).bind fun source => ?_
      cases source.iterate? with
      | some items =>
          refine Restores.foldlM items (fun state item => ?_) state
          exact (Restores.lift _).bind fun state =>
            executeBlock_restores ev body (state.bind name item)
      | none => exact .throw _
  | .raise kind message, state => by
      rw [execute, Eval.execute]
      refine (Restores.lift _).bind fun state => ?_
      exact (messageText_restores ev state kind message).bind fun _ => .throw _
  | .assert condition message, state => by
      rw [execute, Eval.execute]
      refine (Restores.lift _).bind fun state => ?_
      refine (evaluate_restores ev state.scope condition false 0).bind fun value => ?_
      split
      · exact .pure state
      · exact (messageText_restores ev state _ message).bind fun _ => .throw _
  | .importModule path, state => by
      rw [execute, Eval.execute]
      exact (Restores.lift _).bind fun state => .lift _

theorem executeBlock_restores (ev : Evaluator) : ∀ (block : List Statement) (state : State),
    Restores (executeBlock ev state block) 0 (Eval.executeBlock ev state block)
  | [], state => by
      rw [executeBlock, Eval.executeBlock]
      exact .pure state
  | statement :: rest, state => by
      rw [executeBlock, Eval.executeBlock]
      exact (execute_restores ev statement state).bind fun state =>
        executeBlock_restores ev rest state

theorem executeBranches_restores (ev : Evaluator) :
    ∀ (branches : List (Expr × List Statement)) (state : State),
      Restores (executeBranches ev state branches) 0 (Eval.executeBranches ev state branches)
  | [], state => by
      rw [executeBranches, Eval.executeBranches]
      exact .pure none
  | (condition, body) :: rest, state => by
      rw [executeBranches, Eval.executeBranches]
      refine (evaluate_restores ev state.scope condition false 0).bind fun value => ?_
      split
      · exact (executeBlock_restores ev body state).bind fun state => .pure _
      · exact executeBranches_restores ev rest state

end

theorem run_restores (ev : Evaluator) (program : Program) (scope : Scope) :
    Restores (run ev program scope) 0 (ev.run program scope) :=
  (executeBlock_restores ev program ⟨0, scope⟩).map

/-- The heights of the expressions of a program bound the depth of its runs. Every evaluation, be it a
value or a failure, leaves the counter of levels as it has found it, and it is not refused for its
depth from a count that leaves room for the height of the expression. So a run is not refused for
its depth if all expressions of the program are as high as permitted or less. -/
theorem run_never_too_deep (ev : Evaluator) {program : Program}
    (hheight : ∀ e ∈ program.expressions, e.depth ≤ ev.limits.maxCallDepth) (scope : Scope) :
    (∀ scope kindExpected e count, evaluate ev scope kindExpected e count =
      settled (Eval.evaluate ev scope kindExpected count e) count) ∧
    (∀ scope kindExpected e count max after, count + e.depth ≤ ev.limits.maxCallDepth →
      evaluate ev scope kindExpected e count ≠ .error (.tooDeep max) after) ∧
    run ev program scope 0 = settled (ev.run program scope) 0 ∧
    ∀ max, ev.run program scope ≠ .error (.tooDeep max) := by
  refine ⟨?_, ?_, run_restores ev program scope, ?_⟩
  · intro scope kindExpected e count
    exact evaluate_restores ev scope e kindExpected count
  · intro scope kindExpected e count max after hroom hdeep
    rw [evaluate_restores ev scope e kindExpected count, settled_eq_error] at hdeep
    exact evaluate_within_height hroom scope kindExpected _ hdeep.1 max rfl
  · intro max hdeep
    exact ev.run_within_height hheight scope _ hdeep max rfl

/-- A program as high as permitted fails for a name, and the counter is back at zero. -/
theorem negation_restores_counter :
    let ev := Evaluator.withBuiltins ⟨100, 2, 100⟩ .restricted
    let program : Program := [.assign "flag" (.not (.var "ready"))]
    (∀ e ∈ program.expressions, e.depth ≤ ev.limits.maxCallDepth) ∧
      run ev program [] 0 = .error (.undefinedVariable "ready") 0 ∧
      ∀ max, ev.run program [] ≠ .error (.tooDeep max) := by
  intro ev program
  have hheight : ∀ e ∈ program.expressions, e.depth ≤ ev.limits.maxCallDepth := by
    intro e he
    obtain rfl : e = .not (.var "ready") := by
      simpa [program, Program.expressions, Statement.expressionsOfBlock,
        Statement.expressions] using he
    exact Nat.le_refl 2
  have hfails : ev.run program [] = .error (.undefinedVariable "ready") := rfl
  obtain ⟨-, -, hrun, hdeep⟩ := run_never_too_deep ev hheight []
  refine ⟨hheight, ?_, hdeep⟩
  rw [hrun, hfails]
  rfl

end Counting

end Eval

end SchemaGuard
