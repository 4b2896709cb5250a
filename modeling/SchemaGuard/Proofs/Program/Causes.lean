import SchemaGuard.Proofs.Program.Failure
import SchemaGuard.Proofs.Program.Uses

/-! # Causes of failure

A run fails because an operation on values fails, which it does for ordinary reasons only;
because the guard refuses a use that the program makes; or because an evaluation goes one
level too deep, where the level lies within the height of one of the program's expressions.
A kind of failures that covers these three covers every failure of the run.
-/

namespace SchemaGuard

open Outcome

mutual

/-- The expressions that a statement evaluates, its conditions and messages included. -/
def Statement.expressions : Statement → List Expr
  | .expr e => [e]
  | .assign _ value => [value]
  | .branch branches otherwise => expressionsOfBranches branches ++ expressionsOfBlock otherwise
  | .loop _ iterable body => iterable :: expressionsOfBlock body
  | .raise _ message => message.toList
  | .assert condition message => condition :: message.toList
  | .importModule _ | .pass => []

/-- The expressions of statements in order. -/
def Statement.expressionsOfBlock : List Statement → List Expr
  | [] => []
  | statement :: rest => statement.expressions ++ expressionsOfBlock rest

/-- The expressions of conditions and their bodies in order. -/
def Statement.expressionsOfBranches : List (Expr × List Statement) → List Expr
  | [] => []
  | (condition, body) :: rest =>
      condition :: (expressionsOfBlock body ++ expressionsOfBranches rest)

end

/-- The expressions of a program. -/
def Program.expressions (program : Program) : List Expr :=
  Statement.expressionsOfBlock program

theorem Statement.expressionsOfBlock_append (first second : List Statement) :
    expressionsOfBlock (first ++ second) =
      expressionsOfBlock first ++ expressionsOfBlock second := by
  induction first with
  | nil => rfl
  | cons statement rest ih =>
      simp only [List.cons_append, expressionsOfBlock, ih, List.append_assoc]

namespace Eval

/-- The guard's refusals of some uses are failures of a kind. -/
abbrev Checks (ev : Evaluator) (kind : EvalError → Prop) (uses : List Use) : Prop :=
  ∀ use ∈ uses, FailsOnly kind (guarded (ev.guard.check use))

/-- Going deeper from any level below a bound fails for reasons of a kind. -/
def Enters (ev : Evaluator) (kind : EvalError → Prop) (bound : Nat) : Prop :=
  ∀ depth < bound, FailsOnly kind (enter ev.limits depth)

/-- A kind of failures that covers the ordinary ones. -/
def CoversOrdinary (kind : EvalError → Prop) : Prop :=
  ∀ error, EvalError.Ordinary error → kind error

variable {ev : Evaluator} {kind : EvalError → Prop}

theorem enter_eq_ok {limits : Limits} {depth next : Nat} :
    enter limits depth = .ok next ↔ depth + 1 ≤ limits.maxCallDepth ∧ next = depth + 1 := by
  unfold enter
  split
  next hle => simp [hle, eq_comm]
  next hle => simp [hle]

namespace Enters

variable {bound bound' depth : Nat}

theorem mono (henters : Enters ev kind bound) (hbound : bound' ≤ bound) :
    Enters ev kind bound' :=
  fun depth hdepth => henters depth (Nat.lt_of_lt_of_le hdepth hbound)

/-- What follows a step down runs one level deeper. -/
theorem bind {α : Type} {next : Nat → Except EvalError α} (henters : Enters ev kind bound)
    (hdepth : depth < bound) (hnext : FailsOnly kind (next (depth + 1))) :
    FailsOnly kind (enter ev.limits depth >>= next) := by
  refine (henters depth hdepth).bind fun deeper hdeeper => ?_
  obtain ⟨_, rfl⟩ := enter_eq_ok.mp hdeeper
  exact hnext

end Enters

/-! ## Single steps -/

theorem ordinary_failsOnly (hordinary : CoversOrdinary kind) {α : Type}
    {outcome : Except EvalError α} (houtcome : Ordinary outcome) : FailsOnly kind outcome :=
  FailsOnly.mono houtcome hordinary

theorem error_failsOnly (hordinary : CoversOrdinary kind) {α : Type} {error : EvalError}
    (herror : error.Ordinary) : FailsOnly kind (.error error : Except EvalError α) :=
  (FailsOnly.error_iff error).mpr (hordinary error herror)

theorem tick_failsOnly (hordinary : CoversOrdinary kind) (limits : Limits) (state : State) :
    FailsOnly kind (tick limits state) := by
  unfold tick
  split
  · exact FailsOnly.ok _
  · exact error_failsOnly hordinary trivial

theorem resolve_failsOnly (hordinary : CoversOrdinary kind) {name : String}
    (hname : FailsOnly kind (guarded (ev.guard.check (.reads name)))) (scope : Scope) :
    FailsOnly kind (resolve ev scope name) := by
  refine hname.bind fun _ _ => ?_
  split
  · exact FailsOnly.ok _
  · exact error_failsOnly hordinary trivial

theorem followPath_failsOnly (hordinary : CoversOrdinary kind) {names : List String}
    (hnames : Checks ev kind (names.map .selects)) (value : Value) :
    FailsOnly kind (followPath ev value names) := by
  induction names generalizing value with
  | nil => exact FailsOnly.ok value
  | cons name rest ih =>
      obtain ⟨hname, hrest⟩ := List.forall_mem_cons.mp hnames
      exact hname.bind fun _ _ =>
        (ordinary_failsOnly hordinary (readAttribute_ordinary value name)).bind
          fun inner _ => ih hrest inner

theorem resolvePath_failsOnly (hordinary : CoversOrdinary kind) {parts : List String}
    (hparts : Checks ev kind (Expr.usesOfPath parts)) (scope : Scope) :
    FailsOnly kind (resolvePath ev scope parts) := by
  cases parts with
  | nil => exact FailsOnly.ok _
  | cons root rest =>
      obtain ⟨hroot, hrest⟩ := List.forall_mem_cons.mp hparts
      exact (resolve_failsOnly hordinary hroot scope).bind fun value _ =>
        followPath_failsOnly hordinary hrest value

/-! ## Expressions -/

mutual

theorem evaluate_failsOnly (hordinary : CoversOrdinary kind) (scope : Scope) :
    ∀ (e : Expr) (kindExpected : Bool) (depth : Nat),
    Checks ev kind e.uses → Enters ev kind (depth + e.depth) →
      FailsOnly kind (evaluate ev scope kindExpected depth e)
  | .null, _, depth, _, henters | .bool _, _, depth, _, henters | .int _, _, depth, _, henters
  | .str _, _, depth, _, henters => by
      rw [Expr.depth] at henters
      rw [evaluate]
      exact henters.bind (by omega) (FailsOnly.ok _)
  | .float x, _, depth, _, henters => by
      rw [Expr.depth] at henters
      rw [evaluate]
      exact henters.bind (by omega) (ordinary_failsOnly hordinary (ofReal_ordinary _))
  | .list items, kindExpected, depth, hchecks, henters => by
      rw [Expr.depth] at henters
      rw [evaluate]
      split
      · exact (evaluateList_failsOnly hordinary scope items true depth hchecks
          (henters.mono (by omega))).map
      · refine henters.bind (by omega) ?_
        exact (evaluateList_failsOnly hordinary scope items false _ hchecks
          (henters.mono (by omega))).bind fun _ _ => FailsOnly.ok _
  | .var name, kindExpected, depth, hchecks, henters => by
      have hname := hchecks (.reads name) List.mem_cons_self
      rw [Expr.depth] at henters
      rw [evaluate]
      split
      · exact hname.bind fun _ _ => FailsOnly.ok _
      · exact henters.bind (by omega) (resolve_failsOnly hordinary hname scope)
  | .path parts, _, depth, hchecks, henters => by
      rw [Expr.depth] at henters
      rw [evaluate]
      exact henters.bind (by omega) (resolvePath_failsOnly hordinary hchecks scope)
  | .binary op left right, _, depth, hchecks, henters => by
      obtain ⟨hleft, hright⟩ := List.forall_mem_append.mp hchecks
      rw [Expr.depth] at henters
      rw [evaluate]
      refine henters.bind (by omega) ?_
      refine (evaluate_failsOnly hordinary scope left false _ hleft
        (henters.mono (by omega))).bind fun l _ => ?_
      refine (evaluate_failsOnly hordinary scope right false _ hright
        (henters.mono (by omega))).bind fun r _ => ?_
      exact ordinary_failsOnly hordinary (arithmetic_ordinary op l r _)
  | .compare first links, _, depth, hchecks, henters => by
      obtain ⟨hfirst, hlinks⟩ := List.forall_mem_append.mp hchecks
      rw [Expr.depth] at henters
      rw [evaluate]
      refine henters.bind (by omega) ?_
      exact (evaluate_failsOnly hordinary scope first false _ hfirst (henters.mono (by omega))).bind
        fun left _ =>
          evaluateLinks_failsOnly hordinary scope links _ left hlinks (henters.mono (by omega))
  | .negate operand, _, depth, hchecks, henters => by
      rw [Expr.depth] at henters
      rw [evaluate]
      refine henters.bind (by omega) ?_
      exact (evaluate_failsOnly hordinary scope operand false _ hchecks
        (henters.mono (by omega))).bind fun value _ =>
          ordinary_failsOnly hordinary (negate_ordinary value)
  | .and left right, _, depth, hchecks, henters | .or left right, _, depth, hchecks, henters => by
      obtain ⟨hleft, hright⟩ := List.forall_mem_append.mp hchecks
      rw [Expr.depth] at henters
      rw [evaluate]
      refine henters.bind (by omega) ?_
      refine (evaluate_failsOnly hordinary scope left false _ hleft
        (henters.mono (by omega))).bind fun l _ => ?_
      split
      all_goals first
        | exact evaluate_failsOnly hordinary scope right false _ hright (henters.mono (by omega))
        | exact FailsOnly.ok _
  | .not operand, _, depth, hchecks, henters => by
      rw [Expr.depth] at henters
      rw [evaluate]
      refine henters.bind (by omega) ?_
      exact (evaluate_failsOnly hordinary scope operand false _ hchecks
        (henters.mono (by omega))).bind fun _ _ => FailsOnly.ok _
  | .attr object name, _, depth, hchecks, henters => by
      obtain ⟨hname, hobject⟩ := List.forall_mem_cons.mp hchecks
      rw [Expr.depth] at henters
      rw [evaluate]
      refine henters.bind (by omega) (hname.bind fun _ _ => ?_)
      exact (evaluate_failsOnly hordinary scope object false _ hobject
        (henters.mono (by omega))).bind fun receiver _ =>
          ordinary_failsOnly hordinary (readAttribute_ordinary receiver name)
  | .index object position, _, depth, hchecks, henters => by
      obtain ⟨hobject, hposition⟩ := List.forall_mem_append.mp hchecks
      rw [Expr.depth] at henters
      rw [evaluate]
      refine henters.bind (by omega) ?_
      refine (evaluate_failsOnly hordinary scope object false _ hobject
        (henters.mono (by omega))).bind fun receiver _ => ?_
      refine (evaluate_failsOnly hordinary scope position false _ hposition
        (henters.mono (by omega))).bind fun index _ => ?_
      exact ordinary_failsOnly hordinary (readIndex_ordinary receiver index)
  | .call callee args, _, depth, hchecks, henters => by
      have hargs := evaluateArgs_failsOnly hordinary scope args
      have hcallee := evaluate_failsOnly hordinary scope callee
      rw [Expr.depth] at henters
      cases callee with
      | var name =>
          obtain ⟨hname, hchecks⟩ := List.forall_mem_cons.mp hchecks
          rw [evaluate]
          refine henters.bind (by omega) (hname.bind fun _ _ => ?_)
          split
          · exact (hargs _ name 0 hchecks (henters.mono (by omega))).bind fun values _ =>
              ordinary_failsOnly hordinary (callFunction_ordinary ev name values)
          · exact error_failsOnly hordinary trivial
      | attr object name =>
          obtain ⟨hname, hchecks⟩ := List.forall_mem_cons.mp hchecks
          obtain ⟨hobject, hchecks⟩ := List.forall_mem_append.mp hchecks
          rw [Expr.depth] at henters
          rw [evaluate]
          refine henters.bind (by omega) (hname.bind fun _ _ => ?_)
          refine (evaluate_failsOnly hordinary scope object false _ hobject
            (henters.mono (by omega))).bind fun receiver _ => ?_
          split
          · exact (hargs _ name 0 hchecks (henters.mono (by omega))).bind fun values _ =>
              ordinary_failsOnly hordinary (callFunction_ordinary ev name _)
          · exact error_failsOnly hordinary trivial
      | _ =>
          -- Any other callee has a value, and no value can be called; the arguments do not matter.
          obtain ⟨hchecks, _⟩ := List.forall_mem_append.mp hchecks
          rw [evaluate]
          · exact henters.bind (by omega)
              ((hcallee false _ hchecks (henters.mono (by omega))).bind fun value _ =>
                error_failsOnly hordinary trivial)
          · intro name heq
            cases heq
          · intro object name heq
            cases heq
  | .cond condition whenTrue whenFalse, _, depth, hchecks, henters => by
      obtain ⟨hcondition, hchecks⟩ := List.forall_mem_append.mp hchecks
      obtain ⟨htrue, hfalse⟩ := List.forall_mem_append.mp hchecks
      rw [Expr.depth] at henters
      rw [evaluate]
      refine henters.bind (by omega) ?_
      refine (evaluate_failsOnly hordinary scope condition false _ hcondition
        (henters.mono (by omega))).bind fun value _ => ?_
      split
      · exact evaluate_failsOnly hordinary scope whenTrue false _ htrue (henters.mono (by omega))
      · exact evaluate_failsOnly hordinary scope whenFalse false _ hfalse (henters.mono (by omega))

theorem evaluateList_failsOnly (hordinary : CoversOrdinary kind) (scope : Scope) :
    ∀ (items : List Expr) (kindExpected : Bool) (depth : Nat),
    Checks ev kind (Expr.usesOfList items) → Enters ev kind (depth + Expr.depthOfList items) →
      FailsOnly kind (evaluateList ev scope kindExpected depth items)
  | [], _, _, _, _ => by
      rw [evaluateList]
      exact FailsOnly.ok _
  | e :: rest, kindExpected, depth, hchecks, henters => by
      obtain ⟨he, hrest⟩ := List.forall_mem_append.mp hchecks
      rw [Expr.depthOfList] at henters
      rw [evaluateList]
      refine (evaluate_failsOnly hordinary scope e kindExpected depth he
        (henters.mono (by omega))).bind fun _ _ => ?_
      exact (evaluateList_failsOnly hordinary scope rest kindExpected depth hrest
        (henters.mono (by omega))).bind fun _ _ => FailsOnly.ok _

theorem evaluateArgs_failsOnly (hordinary : CoversOrdinary kind) (scope : Scope) :
    ∀ (args : List Expr) (depth : Nat) (function : String)
    (position : Nat), Checks ev kind (Expr.usesOfList args) →
      Enters ev kind (depth + Expr.depthOfList args) →
      FailsOnly kind (evaluateArgs ev scope depth function position args)
  | [], _, _, _, _, _ => by
      rw [evaluateArgs]
      exact FailsOnly.ok _
  | e :: rest, depth, function, position, hchecks, henters => by
      obtain ⟨he, hrest⟩ := List.forall_mem_append.mp hchecks
      rw [Expr.depthOfList] at henters
      rw [evaluateArgs]
      refine (evaluate_failsOnly hordinary scope e _ depth he
        (henters.mono (by omega))).bind fun _ _ => ?_
      exact (evaluateArgs_failsOnly hordinary scope rest depth function (position + 1) hrest
        (henters.mono (by omega))).bind fun _ _ => FailsOnly.ok _

theorem evaluateLinks_failsOnly (hordinary : CoversOrdinary kind) (scope : Scope) :
    ∀ (links : List (CompareOp × Expr)) (depth : Nat)
    (left : Value), Checks ev kind (Expr.usesOfLinks links) →
      Enters ev kind (depth + Expr.depthOfLinks links) →
      FailsOnly kind (evaluateLinks ev scope depth left links)
  | [], _, _, _, _ => by
      rw [evaluateLinks]
      exact FailsOnly.ok _
  | (op, operand) :: rest, depth, left, hchecks, henters => by
      obtain ⟨hoperand, hrest⟩ := List.forall_mem_append.mp hchecks
      rw [Expr.depthOfLinks] at henters
      rw [evaluateLinks]
      refine (evaluate_failsOnly hordinary scope operand false depth hoperand
        (henters.mono (by omega))).bind fun right _ => ?_
      refine (ordinary_failsOnly hordinary (compare_ordinary op left right)).bind
        fun holds _ => ?_
      split
      · exact evaluateLinks_failsOnly hordinary scope rest depth right hrest
          (henters.mono (by omega))
      · exact FailsOnly.ok _

end

/-! ## Statements -/

theorem evaluateIn_failsOnly (hordinary : CoversOrdinary kind) {e : Expr} (state : State)
    (hchecks : Checks ev kind e.uses) (henters : Enters ev kind e.depth) :
    FailsOnly kind (evaluateIn ev state e) := by
  rw [← Nat.zero_add e.depth] at henters
  exact evaluate_failsOnly hordinary state.scope e false 0 hchecks henters

theorem messageText_failsOnly (hordinary : CoversOrdinary kind) {message : Option Expr}
    (state : State) (fallback : String) (hchecks : Checks ev kind (Expr.usesOfOption message))
    (henters : ∀ e ∈ message.toList, Enters ev kind e.depth) :
    FailsOnly kind (messageText ev state fallback message) := by
  cases message with
  | none => exact FailsOnly.ok _
  | some e =>
      exact (evaluateIn_failsOnly hordinary state hchecks (henters e List.mem_cons_self)).map

theorem importModule_failsOnly (hordinary : CoversOrdinary kind) {path : List String}
    (state : State) (hchecks : Checks ev kind (path.head?.toList.map .imports)) :
    FailsOnly kind (importModule ev state path) := by
  have hpath : FailsOnly kind (guarded (ev.guard.checkModule path)) := by
    cases path with
    | nil => exact FailsOnly.ok ()
    | cons root rest => exact hchecks (.imports root) List.mem_cons_self
  refine hpath.bind fun _ _ => ?_
  split
  · exact FailsOnly.ok _
  · exact error_failsOnly hordinary trivial

mutual

theorem execute_failsOnly (hordinary : CoversOrdinary kind) :
    ∀ (statement : Statement) (state : State),
    Checks ev kind statement.uses → (∀ e ∈ statement.expressions, Enters ev kind e.depth) →
      FailsOnly kind (execute ev state statement)
  | .pass, state, _, _ => by
      rw [execute]
      exact tick_failsOnly hordinary _ state
  | .expr e, state, hchecks, henters => by
      rw [execute]
      refine (tick_failsOnly hordinary _ state).bind fun state _ => ?_
      exact (evaluateIn_failsOnly hordinary state hchecks (henters e List.mem_cons_self)).bind
        fun _ _ => FailsOnly.ok _
  | .assign target value, state, hchecks, henters => by
      obtain ⟨htarget, hvalue⟩ := List.forall_mem_cons.mp hchecks
      rw [execute]
      refine (tick_failsOnly hordinary _ state).bind fun state _ => htarget.bind fun _ _ => ?_
      exact (evaluateIn_failsOnly hordinary state hvalue (henters value List.mem_cons_self)).bind
        fun _ _ => FailsOnly.ok _
  | .branch branches otherwise, state, hchecks, henters => by
      obtain ⟨hbranches, hotherwise⟩ := List.forall_mem_append.mp hchecks
      obtain ⟨hwithin, hafter⟩ := List.forall_mem_append.mp henters
      rw [execute]
      refine (tick_failsOnly hordinary _ state).bind fun state _ => ?_
      refine (executeBranches_failsOnly hordinary branches state hbranches hwithin).bind
        fun taken _ => ?_
      cases taken with
      | some state => exact FailsOnly.ok _
      | none => exact executeBlock_failsOnly hordinary otherwise state hotherwise hafter
  | .loop name iterable body, state, hchecks, henters => by
      obtain ⟨hname, hchecks⟩ := List.forall_mem_cons.mp hchecks
      obtain ⟨hiterable, hbody⟩ := List.forall_mem_append.mp hchecks
      obtain ⟨henter, henters⟩ := List.forall_mem_cons.mp henters
      rw [execute]
      refine (tick_failsOnly hordinary _ state).bind fun state _ => hname.bind fun _ _ => ?_
      refine (evaluateIn_failsOnly hordinary state hiterable henter).bind fun source _ => ?_
      split
      · -- No round depends on the rounds before it: the body can only fail so in every state.
        refine FailsOnly.foldlM fun state item => ?_
        exact (tick_failsOnly hordinary _ state).bind fun state _ =>
          executeBlock_failsOnly hordinary body (state.bind name item) hbody henters
      · exact error_failsOnly hordinary trivial
  | .raise kind message, state, hchecks, henters => by
      rw [execute]
      refine (tick_failsOnly hordinary _ state).bind fun state _ => ?_
      exact (messageText_failsOnly hordinary state kind hchecks henters).bind fun _ _ =>
        error_failsOnly hordinary trivial
  | .assert condition message, state, hchecks, henters => by
      obtain ⟨hcondition, hmessage⟩ := List.forall_mem_append.mp hchecks
      obtain ⟨henter, henters⟩ := List.forall_mem_cons.mp henters
      rw [execute]
      refine (tick_failsOnly hordinary _ state).bind fun state _ => ?_
      refine (evaluateIn_failsOnly hordinary state hcondition henter).bind fun value _ => ?_
      split
      · exact FailsOnly.ok _
      · exact (messageText_failsOnly hordinary state _ hmessage henters).bind fun _ _ =>
          error_failsOnly hordinary trivial
  | .importModule path, state, hchecks, _ => by
      rw [execute]
      exact (tick_failsOnly hordinary _ state).bind fun state _ =>
        importModule_failsOnly hordinary state hchecks

theorem executeBlock_failsOnly (hordinary : CoversOrdinary kind) :
    ∀ (block : List Statement) (state : State),
    Checks ev kind (Statement.usesOfBlock block) →
      (∀ e ∈ Statement.expressionsOfBlock block, Enters ev kind e.depth) →
      FailsOnly kind (executeBlock ev state block)
  | [], state, _, _ => by
      rw [executeBlock]
      exact FailsOnly.ok state
  | statement :: rest, state, hchecks, henters => by
      obtain ⟨hstatement, hrest⟩ := List.forall_mem_append.mp hchecks
      obtain ⟨henter, henters⟩ := List.forall_mem_append.mp henters
      rw [executeBlock]
      exact (execute_failsOnly hordinary statement state hstatement henter).bind fun state _ =>
        executeBlock_failsOnly hordinary rest state hrest henters

theorem executeBranches_failsOnly (hordinary : CoversOrdinary kind) :
    ∀ (branches : List (Expr × List Statement)) (state : State),
    Checks ev kind (Statement.usesOfBranches branches) →
      (∀ e ∈ Statement.expressionsOfBranches branches, Enters ev kind e.depth) →
      FailsOnly kind (executeBranches ev state branches)
  | [], state, _, _ => by
      rw [executeBranches]
      exact FailsOnly.ok none
  | (condition, body) :: rest, state, hchecks, henters => by
      obtain ⟨hcondition, hchecks⟩ := List.forall_mem_append.mp hchecks
      obtain ⟨hbody, hrest⟩ := List.forall_mem_append.mp hchecks
      obtain ⟨henter, henters⟩ := List.forall_mem_cons.mp henters
      obtain ⟨hwithin, hafter⟩ := List.forall_mem_append.mp henters
      rw [executeBranches]
      refine (evaluateIn_failsOnly hordinary state hcondition henter).bind fun value _ => ?_
      split
      · exact (executeBlock_failsOnly hordinary body state hbody hwithin).bind
          fun _ _ => FailsOnly.ok _
      · exact executeBranches_failsOnly hordinary rest state hrest hafter

end

end Eval

/-- A kind of failures covers those of a run when it covers the ordinary ones, the refusals of the
uses in the program, and the steps down within the heights of its expressions. -/
theorem Evaluator.run_failsOnly {ev : Evaluator} {kind : EvalError → Prop}
    (hordinary : Eval.CoversOrdinary kind) {program : Program}
    (hchecks : Eval.Checks ev kind program.uses)
    (henters : ∀ e ∈ program.expressions, Eval.Enters ev kind e.depth) (scope : Scope) :
    FailsOnly kind (ev.run program scope) :=
  (Eval.executeBlock_failsOnly hordinary program ⟨0, scope⟩ hchecks henters).map

end SchemaGuard
