import SchemaGuard.Engine
import SchemaGuard.Proofs.Program.Causes
import SchemaGuard.Proofs.Program.Factors
import SchemaGuard.Proofs.Program.Steps

/-! # How far a run lengthens values

A step of a run binds at most one name, to a value that is longer than what it is made from by no
more than the factor of an expression. So values can grow by that factor at each step, and a
program that adds a list to itself reaches this. A program that only appends to its sequences, and
never one that grows to another, adds no more than a constant at each step.
-/

namespace SchemaGuard

open Outcome Eval

/-- The number of characters and items in the literals of a program and in the module that it
imports. -/
def Program.literalSize (program : Program) : Nat :=
  (program.expressions.map Expr.literalSize).sum +
    if .imports "string" ∈ program.uses then Eval.stringModule.size else 0

/-! ## Runs -/

mutual

/-- The names that a statement binds to values of expressions or to their items. -/
def Statement.bindings : Statement → List (String × Expr)
  | .assign target value => [(target, value)]
  | .loop name iterable body => (name, iterable) :: bindingsOfBlock body
  | .branch branches otherwise => bindingsOfBranches branches ++ bindingsOfBlock otherwise
  | .expr _ | .raise _ _ | .assert _ _ | .importModule _ | .pass => []

/-- The bindings of statements in order. -/
def Statement.bindingsOfBlock : List Statement → List (String × Expr)
  | [] => []
  | statement :: rest => statement.bindings ++ bindingsOfBlock rest

/-- The bindings of the bodies of branches in order. -/
def Statement.bindingsOfBranches : List (Expr × List Statement) → List (String × Expr)
  | [] => []
  | (_, body) :: rest => bindingsOfBlock body ++ bindingsOfBranches rest

end

/-- The names that a program binds, each with the expression that it takes its value or its items
from. -/
def Program.bindings (program : Program) : List (String × Expr) :=
  Statement.bindingsOfBlock program

mutual

theorem Statement.mem_expressions {binding : String × Expr} : ∀ statement : Statement,
    binding ∈ statement.bindings → binding.2 ∈ statement.expressions
  | .assign target value, hmem => by
      rw [List.mem_singleton.mp hmem]
      exact List.mem_singleton_self _
  | .loop name iterable body, hmem => by
      rcases List.mem_cons.mp hmem with rfl | hmem
      · exact List.mem_cons_self
      · exact List.mem_cons_of_mem _ (mem_expressionsOfBlock body hmem)
  | .branch branches otherwise, hmem => by
      rcases List.mem_append.mp hmem with hmem | hmem
      · exact List.mem_append_left _ (mem_expressionsOfBranches branches hmem)
      · exact List.mem_append_right _ (mem_expressionsOfBlock otherwise hmem)
  | .expr _, hmem | .raise _ _, hmem | .assert _ _, hmem | .importModule _, hmem | .pass, hmem =>
      nomatch hmem

theorem Statement.mem_expressionsOfBlock {binding : String × Expr} : ∀ block : List Statement,
    binding ∈ bindingsOfBlock block → binding.2 ∈ expressionsOfBlock block
  | [], hmem => nomatch hmem
  | statement :: rest, hmem => by
      rcases List.mem_append.mp hmem with hmem | hmem
      · exact List.mem_append_left _ (mem_expressions statement hmem)
      · exact List.mem_append_right _ (mem_expressionsOfBlock rest hmem)

theorem Statement.mem_expressionsOfBranches {binding : String × Expr} :
    ∀ branches : List (Expr × List Statement),
      binding ∈ bindingsOfBranches branches → binding.2 ∈ expressionsOfBranches branches
  | [], hmem => nomatch hmem
  | (condition, body) :: rest, hmem => by
      refine List.mem_cons_of_mem _ ?_
      rcases List.mem_append.mp hmem with hmem | hmem
      · exact List.mem_append_left _ (mem_expressionsOfBlock body hmem)
      · exact List.mem_append_right _ (mem_expressionsOfBranches rest hmem)

end

namespace Eval

variable {ev : Evaluator} {bound : Nat → String → Nat}

/-- A limit for each name and number of steps. -/
structure Keeps (ev : Evaluator) (bound : Nat → String → Nat) (bindings : List (String × Expr))
    (uses : List Use) : Prop where
  mono : ∀ name, Monotone (bound · name)
  values : ∀ binding ∈ bindings, ∀ k < ev.limits.maxIterations, ∀ scope : Scope,
    scope.Within (bound k) →
      YieldsWithin (bound (k + 1) binding.1) (evaluate ev scope false 0 binding.2)
  module : .imports "string" ∈ uses → ∀ k, stringModule.Within (bound k "string")

/-- A state that a run can have reached from one with a number of steps: the values are within the
limits for the steps taken so far. -/
structure Reached (ev : Evaluator) (bound : Nat → String → Nat) (start : Nat) (state : State) :
    Prop where
  start_le : start ≤ state.steps
  steps_le : state.steps ≤ ev.limits.maxIterations
  scope : state.scope.Within (bound state.steps)

variable {bindings bindings' : List (String × Expr)} {uses uses' : List Use} {start start' : Nat}
  {state next : State} {name : String} {value : Value}

theorem Keeps.subset (hkeeps : Keeps ev bound bindings uses)
    (hbindings : ∀ binding ∈ bindings', binding ∈ bindings) (huses : ∀ use ∈ uses', use ∈ uses) :
    Keeps ev bound bindings' uses' where
  mono := hkeeps.mono
  values binding hbinding := hkeeps.values binding (hbindings binding hbinding)
  module himport := hkeeps.module (huses _ himport)

theorem Reached.later (hstate : Reached ev bound start state) (hle : start' ≤ start) :
    Reached ev bound start' state :=
  ⟨Nat.le_trans hle hstate.start_le, hstate.steps_le, hstate.scope⟩

theorem Reached.bind (hstate : Reached ev bound start state)
    (hvalue : value.Within (bound state.steps name)) :
    Reached ev bound start (state.bind name value) :=
  ⟨hstate.start_le, hstate.steps_le, hstate.scope.insert hvalue⟩

/-- A step leaves the scope as it is. -/
theorem Reached.tick (hmono : ∀ name, Monotone (bound · name))
    (hstate : Reached ev bound start state) (htick : tick ev.limits state = .ok next) :
    next = ⟨state.steps + 1, state.scope⟩ ∧ state.steps < ev.limits.maxIterations ∧
      Reached ev bound (start + 1) next := by
  obtain ⟨hsteps, rfl⟩ := tick_eq_ok.mp htick
  refine ⟨rfl, hsteps, Nat.succ_le_succ hstate.start_le, hsteps, ?_⟩
  exact hstate.scope.mono fun name => hmono name (Nat.le_succ _)

theorem importModule_reached {path : List String} (hstate : Reached ev bound start state)
    (hkeeps : Keeps ev bound [] (path.head?.toList.map .imports)) :
    Yields (Reached ev bound start) (importModule ev state path) := by
  unfold importModule
  refine Yields.bind fun _ _ => ?_
  split
  next hpath =>
    subst hpath
    exact (Yields.ok_iff _).mpr (hstate.bind (hkeeps.module List.mem_cons_self _))
  next => exact Yields.error _

/-- The rounds of a loop, which bind items that are within the limit at its beginning. -/
theorem rounds_reached {body : List Statement} {items : List Value}
    (hmono : ∀ name, Monotone (bound · name))
    (hitems : ∀ item ∈ items, item.Within (bound start name))
    (hbody : ∀ {state}, Reached ev bound start state →
      Yields (Reached ev bound start) (executeBlock ev state body))
    (hstate : Reached ev bound start state) :
    Yields (Reached ev bound start) (items.foldlM (fun state item => do
      let state ← Eval.tick ev.limits state
      executeBlock ev (state.bind name item) body) state) := by
  induction items generalizing state with
  | nil => exact (Yields.ok_iff _).mpr hstate
  | cons item rest ih =>
      obtain ⟨hitem, hrest⟩ := List.forall_mem_cons.mp hitems
      rw [List.foldlM_cons]
      refine Yields.next ?_ fun next hnext => ih hrest hnext
      refine Yields.bind fun next htick => hbody ?_
      have hnext := (hstate.tick hmono htick).2.2.later (Nat.le_succ start)
      exact hnext.bind (hitem.mono (hmono name hnext.start_le))

mutual

theorem execute_reached : ∀ (statement : Statement) (start : Nat) {state : State},
    Reached ev bound start state → Keeps ev bound statement.bindings statement.uses →
      Yields (Reached ev bound start) (execute ev state statement)
  | .pass, _, _, hstate, hkeeps => by
      rw [execute]
      exact fun next htick => (hstate.tick hkeeps.mono htick).2.2.later (Nat.le_succ _)
  | .expr e, _, _, hstate, hkeeps => by
      rw [execute]
      refine Yields.bind fun next htick => Yields.bind fun _ _ => (Yields.ok_iff _).mpr ?_
      exact (hstate.tick hkeeps.mono htick).2.2.later (Nat.le_succ _)
  | .assign target value, _, state, hstate, hkeeps => by
      rw [execute]
      refine Yields.bind fun next htick => Yields.bind fun _ _ => ?_
      obtain ⟨rfl, hsteps, hnext⟩ := hstate.tick hkeeps.mono htick
      have hvalue := hkeeps.values (target, value) List.mem_cons_self state.steps hsteps state.scope
        hstate.scope
      refine hvalue.next fun value hvalue => (Yields.ok_iff _).mpr ?_
      exact (hnext.bind hvalue).later (Nat.le_succ _)
  | .branch branches otherwise, start, _, hstate, hkeeps => by
      rw [execute]
      refine Yields.bind fun next htick => ?_
      have hnext := (hstate.tick hkeeps.mono htick).2.2.later (Nat.le_succ start)
      have hbranches := executeBranches_reached branches start hnext (hkeeps.subset
        (fun _ => List.mem_append_left _) (fun _ => List.mem_append_left _))
      refine hbranches.next fun taken htaken => ?_
      cases taken with
      | some taken => exact (Yields.ok_iff _).mpr (htaken taken rfl)
      | none =>
          exact executeBlock_reached otherwise start hnext (hkeeps.subset
            (fun _ => List.mem_append_right _) (fun _ => List.mem_append_right _))
  | .loop name iterable body, start, state, hstate, hkeeps => by
      have hbody : Keeps ev bound (Statement.bindingsOfBlock body) (Statement.usesOfBlock body) :=
        hkeeps.subset (fun _ => List.mem_cons_of_mem _)
          (fun _ huse => List.mem_cons_of_mem _ (List.mem_append_right _ huse))
      rw [execute]
      refine Yields.bind fun next htick => Yields.bind fun _ _ => ?_
      obtain ⟨rfl, hsteps, hnext⟩ := hstate.tick hkeeps.mono htick
      have hsource := hkeeps.values (name, iterable) List.mem_cons_self state.steps hsteps
        state.scope hstate.scope
      refine hsource.next fun source hsource => ?_
      split
      next items hitems =>
        have hitems := (Value.within_list.mp (hsource.iterate hitems)).2
        have hreached : Reached ev bound (state.steps + 1) ⟨state.steps + 1, state.scope⟩ :=
          ⟨Nat.le_refl _, hnext.steps_le, hnext.scope⟩
        have hrounds := rounds_reached hkeeps.mono hitems
          (fun hstate => executeBlock_reached body _ hstate hbody) hreached
        exact fun final hfinal =>
          (hrounds final hfinal).later (Nat.le_trans hstate.start_le (Nat.le_succ _))
      next => exact Yields.error _
  | .raise kind message, _, _, _, _ => by
      rw [execute]
      exact Yields.bind fun _ _ => Yields.bind fun _ _ => Yields.error _
  | .assert condition message, _, _, hstate, hkeeps => by
      rw [execute]
      refine Yields.bind fun next htick => Yields.bind fun value _ => ?_
      split
      · exact (Yields.ok_iff _).mpr ((hstate.tick hkeeps.mono htick).2.2.later (Nat.le_succ _))
      · exact Yields.bind fun _ _ => Yields.error _
  | .importModule path, start, _, hstate, hkeeps => by
      rw [execute]
      refine Yields.bind fun next htick => importModule_reached ?_ hkeeps
      exact (hstate.tick hkeeps.mono htick).2.2.later (Nat.le_succ start)

theorem executeBlock_reached : ∀ (block : List Statement) (start : Nat) {state : State},
    Reached ev bound start state →
      Keeps ev bound (Statement.bindingsOfBlock block) (Statement.usesOfBlock block) →
      Yields (Reached ev bound start) (executeBlock ev state block)
  | [], _, _, hstate, _ => by
      rw [executeBlock]
      exact (Yields.ok_iff _).mpr hstate
  | statement :: rest, start, _, hstate, hkeeps => by
      rw [executeBlock]
      refine (execute_reached statement start hstate (hkeeps.subset
        (fun _ => List.mem_append_left _) (fun _ => List.mem_append_left _))).next
          fun next hnext => ?_
      exact executeBlock_reached rest start hnext (hkeeps.subset
        (fun _ => List.mem_append_right _) (fun _ => List.mem_append_right _))

theorem executeBranches_reached : ∀ (branches : List (Expr × List Statement)) (start : Nat)
    {state : State}, Reached ev bound start state →
      Keeps ev bound (Statement.bindingsOfBranches branches) (Statement.usesOfBranches branches) →
      Yields (fun taken => ∀ next, taken = some next → Reached ev bound start next)
        (executeBranches ev state branches)
  | [], _, _, _, _ => by
      rw [executeBranches]
      simp
  | (condition, body) :: rest, start, _, hstate, hkeeps => by
      have hbody := executeBlock_reached body start hstate (hkeeps.subset
        (fun _ => List.mem_append_left _)
        (fun _ huse => List.mem_append_right _ (List.mem_append_left _ huse)))
      rw [executeBranches]
      refine Yields.bind fun value _ => ?_
      split
      · refine hbody.next fun next hnext => (Yields.ok_iff _).mpr ?_
        rintro _ ⟨⟩
        exact hnext
      · exact executeBranches_reached rest start hstate (hkeeps.subset
          (fun _ => List.mem_append_right _)
          (fun _ huse => List.mem_append_right _ (List.mem_append_right _ huse)))

end

end Eval

/-- The values at the end of a run are within the limits for its last step. -/
theorem Evaluator.run_within {ev : Evaluator} {bound : Nat → String → Nat} {program : Program}
    {scope final : Scope} (hkeeps : Eval.Keeps ev bound program.bindings program.uses)
    (hscope : scope.Within (bound 0)) (hrun : ev.run program scope = .ok final) :
    final.Within (bound ev.limits.maxIterations) := by
  obtain ⟨state, hstate, rfl⟩ := map_eq_ok.mp hrun
  have hreached := Eval.executeBlock_reached program 0
    ⟨Nat.zero_le _, Nat.zero_le _, hscope⟩ hkeeps state hstate
  exact hreached.scope.mono fun name => hkeeps.mono name hreached.steps_le

/-! ## Growth by a factor and by a constant -/

/-- The greatest factor of the expressions that a program binds names to. -/
def Program.factor (program : Program) : Nat :=
  Expr.factorOfList (program.bindings.map Prod.snd)

/-- None of the values that a program binds names to is made by a function without a factor. -/
def Program.Linear (program : Program) : Prop :=
  ∀ binding ∈ program.bindings, Use.Linear binding.2.uses

instance (program : Program) : Decidable program.Linear :=
  inferInstanceAs (Decidable (∀ binding ∈ program.bindings, Use.Linear binding.2.uses))

namespace Expr

/-- An expression gives nothing longer than what it is made from. -/
def Plain (e : Expr) : Prop :=
  e.factor = 1 ∧ Use.Linear e.uses

/-- An expression reads none of some names. -/
def Avoids (names : List String) (e : Expr) : Prop :=
  ∀ name ∈ names, .reads name ∉ e.uses

instance (e : Expr) : Decidable e.Plain :=
  inferInstanceAs (Decidable (e.factor = 1 ∧ Use.Linear e.uses))

instance (names : List String) (e : Expr) : Decidable (e.Avoids names) :=
  inferInstanceAs (Decidable (∀ name ∈ names, .reads name ∉ e.uses))

/-- What a program may bind a name to when only some names hold sequences that grow: what is made
from other names, or for one of those names also what is made from any, or something to which a
part is appended that is not made from names that grow. -/
inductive Feeds (grown : List String) (name : String) (e : Expr) : Prop
  | short (hplain : e.Plain) (havoids : e.Avoids grown)
  | kept (hname : name ∈ grown) (hplain : e.Plain)
  | appended (hname : name ∈ grown) {left right : Expr} (happends : Appends left right e)
      (hleft : left.Plain) (hright : right.Plain)
      (havoids : left.Avoids grown ∨ right.Avoids grown)

end Expr

/-- A program only appends to the sequences of some names, and never one of them to another. -/
def Program.Accumulates (grown : List String) (program : Program) : Prop :=
  ∀ binding ∈ program.bindings, Expr.Feeds grown binding.1 binding.2

namespace Program

variable {program : Program} {binding : String × Expr}

theorem factor_le (hbinding : binding ∈ program.bindings) : binding.2.factor ≤ program.factor :=
  Expr.factor_le_of_mem (List.mem_map_of_mem hbinding)

theorem literalSize_le (hbinding : binding ∈ program.bindings) :
    binding.2.literalSize ≤ program.literalSize := by
  have hmem := Statement.mem_expressionsOfBlock program hbinding
  exact Nat.le_add_right_of_le (List.le_sum_of_mem (List.mem_map_of_mem hmem))

theorem stringModule_within {limit : Nat} (himport : .imports "string" ∈ program.uses)
    (hsize : program.literalSize ≤ limit) : Eval.stringModule.Within limit := by
  apply Value.within_size
  rw [literalSize, if_pos himport] at hsize
  omega

end Program

theorem Expr.Appends.literalSize_le {left right e : Expr} (happends : Appends left right e) :
    left.literalSize ≤ e.literalSize ∧ right.literalSize ≤ e.literalSize := by
  cases happends <;> simp only [literalSize, literalSizeOfList] <;> omega

/-- The limits for a program that only appends: the names that grow have room for one more addition
at each step. -/
def accumulated (grown : List String) (addition : Nat) (k : Nat) (name : String) : Nat :=
  if name ∈ grown then (k + 1) * addition else addition

section Accumulated

variable {grown : List String} {addition k k' : Nat} {name : String}

theorem accumulated_mono (hle : k ≤ k') :
    accumulated grown addition k name ≤ accumulated grown addition k' name := by
  unfold accumulated
  split
  · exact Nat.mul_le_mul_right _ (Nat.succ_le_succ hle)
  · exact Nat.le_refl _

theorem le_accumulated : addition ≤ accumulated grown addition k name := by
  unfold accumulated
  split
  · exact Nat.le_mul_of_pos_left _ (Nat.succ_pos k)
  · exact Nat.le_refl _

theorem accumulated_le : accumulated grown addition k name ≤ (k + 1) * addition := by
  unfold accumulated
  split
  · exact Nat.le_refl _
  · exact Nat.le_mul_of_pos_left _ (Nat.succ_pos k)

end Accumulated

namespace Eval

variable {ev : Evaluator} {program : Program} {scope : Scope} {size limit k : Nat}
  {grown : List String} {e : Expr}

theorem plain_within (hbuiltin : ev.functions.call = Registry.builtin.call) (hplain : e.Plain)
    (hliterals : e.literalSize ≤ limit) (hrepeated : ev.limits.maxIterations ≤ limit)
    (hpos : 0 < limit) (hreads : ∀ name, .reads name ∈ e.uses →
      ∀ value, Table.get? scope name = some value → value.Within limit) (depth : Nat) :
    YieldsWithin limit (evaluate ev scope false depth e) := by
  have hvalue := evaluate_within hbuiltin e depth
    ⟨hliterals, hrepeated, hpos, hplain.2, hreads⟩
  rwa [hplain.1, Nat.one_mul] at hvalue

/-- Values grow by the factor of the program at each step. -/
theorem keeps_by_factor (hbuiltin : ev.functions.call = Registry.builtin.call)
    (hlinear : program.Linear) (hsize : program.literalSize ≤ size) :
    Keeps ev (fun k _ => program.factor ^ k * max ev.limits.maxIterations size)
      program.bindings program.uses := by
  have hpos : 0 < program.factor := Expr.factorOfList_pos _
  have hlimit (k : Nat) : max ev.limits.maxIterations size ≤
      program.factor ^ k * max ev.limits.maxIterations size :=
    Nat.le_mul_of_pos_left _ (Nat.pow_pos hpos)
  constructor
  case mono =>
    intro _ k k' hle
    exact Nat.mul_le_mul_right _ (Nat.pow_le_pow_right hpos hle)
  case values =>
    intro binding hbinding k hk scope hscope
    have hliteral := Program.literalSize_le hbinding
    have hk' := hlimit k
    refine (evaluate_within hbuiltin binding.2 0 ⟨?_, ?_, ?_, hlinear binding hbinding,
      fun name _ value hget => hscope name value hget⟩).mono ?_
    · omega
    · omega
    · omega
    · rw [Nat.pow_succ, Nat.mul_comm (program.factor ^ k) program.factor, Nat.mul_assoc]
      exact Nat.mul_le_mul_right _ (Program.factor_le hbinding)
  case module =>
    intro himport k
    have hk := hlimit k
    exact Program.stringModule_within himport (by omega)

/-- Values grow by a constant at each step. -/
theorem keeps_by_constant (hbuiltin : ev.functions.call = Registry.builtin.call)
    (haccumulates : program.Accumulates grown) (hsize : program.literalSize ≤ size) :
    Keeps ev (accumulated grown (ev.limits.maxIterations + size)) program.bindings
      program.uses := by
  constructor
  case mono => exact fun name k k' hle => accumulated_mono hle
  case values =>
    rintro ⟨name, e⟩ hbinding k hk scope hscope
    have hliteral : e.literalSize ≤ program.literalSize := Program.literalSize_le hbinding
    -- What is not made from names that grow stays within the addition of one step.
    have hshort {e : Expr} (hplain : e.Plain) (havoids : e.Avoids grown)
        (hle : e.literalSize ≤ program.literalSize) (depth : Nat) :
        YieldsWithin (ev.limits.maxIterations + size) (evaluate ev scope false depth e) := by
      refine plain_within hbuiltin hplain (by omega) (by omega) (by omega)
        (fun name hname value hget => ?_) depth
      have hvalue := hscope name value hget
      rwa [accumulated, if_neg fun hmem => havoids name hmem hname] at hvalue
    have hkept {e : Expr} (hplain : e.Plain) (hle : e.literalSize ≤ program.literalSize)
        (depth : Nat) : YieldsWithin ((k + 1) * (ev.limits.maxIterations + size))
          (evaluate ev scope false depth e) := by
      have haddition : ev.limits.maxIterations + size ≤
          (k + 1) * (ev.limits.maxIterations + size) :=
        Nat.le_mul_of_pos_left _ (Nat.succ_pos k)
      refine plain_within hbuiltin hplain (by omega) (by omega) (by omega)
        (fun name _ value hget => ?_) depth
      exact (hscope name value hget).mono accumulated_le
    cases haccumulates (name, e) hbinding with
    | short hplain havoids => exact (hshort hplain havoids hliteral 0).mono le_accumulated
    | kept hname hplain =>
        refine (hkept hplain hliteral 0).mono ?_
        rw [accumulated, if_pos hname]
        exact Nat.mul_le_mul_right _ (Nat.le_succ _)
    | @appended hname left right happends hleft hright havoids =>
        obtain ⟨hleftSize, hrightSize⟩ :
            left.literalSize ≤ e.literalSize ∧ right.literalSize ≤ e.literalSize :=
          happends.literalSize_le
        rw [accumulated, if_pos hname]
        rcases havoids with havoids | havoids
        · refine (appends_within hbuiltin happends (hshort hleft havoids (by omega))
            (hkept hright (by omega)) 0).mono ?_
          rw [Nat.succ_mul (k + 1), Nat.add_comm]
        · refine (appends_within hbuiltin happends (hkept hleft (by omega))
            (hshort hright havoids (by omega)) 0).mono ?_
          rw [Nat.succ_mul (k + 1)]
  case module =>
    intro himport k
    exact (Program.stringModule_within himport (by omega)).mono le_accumulated

end Eval

/-- How long the texts, lists and tables at the end of a run can be, those in other values included.
With at most `N` steps, and `S` characters and items in the scope, in the literals of the program
and in the module that it imports, they hold no more than `(N + 1) * (N + S)` if the program only
appends to its sequences, and never one that grows to another. If it binds no result of `join`,
`replace` or `str`, they hold no more than `f ^ N * max N S` for the factor `f` of the program,
which is at least the number of operands that its expressions add up. -/
theorem run_lengths (limits : Limits) (guard : Guard) (program : Program) (scope final : Scope)
    (hrun : (Evaluator.withBuiltins limits guard).run program scope = .ok final) :
    let size := scope.size + program.literalSize
    (∀ grown, program.Accumulates grown →
      final.Within fun _ => (limits.maxIterations + 1) * (limits.maxIterations + size)) ∧
    (program.Linear →
      final.Within fun _ =>
        program.factor ^ limits.maxIterations * max limits.maxIterations size) := by
  intro size
  have hscope : scope.size ≤ size := Nat.le_add_right _ _
  have hprogram : program.literalSize ≤ size := Nat.le_add_left _ _
  have hbuiltin : (Evaluator.withBuiltins limits guard).functions.call = Registry.builtin.call :=
    rfl
  constructor
  · intro grown haccumulates
    have hkeeps := keeps_by_constant hbuiltin haccumulates hprogram
    have hfinal := Evaluator.run_within hkeeps (Scope.Within.of_size hscope fun name => ?_) hrun
    · exact hfinal.mono fun name => accumulated_le
    · exact Nat.le_trans (Nat.le_add_left _ _) le_accumulated
  · intro hlinear
    have hkeeps := keeps_by_factor hbuiltin hlinear hprogram
    refine Evaluator.run_within hkeeps (Scope.Within.of_size hscope fun name => ?_) hrun
    rw [Nat.pow_zero, Nat.one_mul]
    exact Nat.le_max_right _ _

/-- A program that gathers the items of a list in a text. -/
def gatheringProgram : Program :=
  [.loop "item" (.var "value") [.assign "text" (.binary .add (.var "text") (.var "item"))],
    .assign "line" (.binary .multiply (.str "-") (.int 3))]

theorem gatheringProgram_lengths :
    let limits : Limits := { maxIterations := 6 }
    let scope : Scope := [("text", .str ""), ("value", .list [.str "a", .str "b"])]
    let final : Scope := [("text", .str "ab"), ("value", .list [.str "a", .str "b"]),
      ("item", .str "b"), ("line", .str "---")]
    (Evaluator.withBuiltins limits .restricted).run gatheringProgram scope = .ok final ∧
      gatheringProgram.Accumulates ["text"] ∧ gatheringProgram.Linear ∧
      final.Within (fun _ => 77) ∧ final.Within (fun _ => 384) := by
  intro limits scope final
  have hrun : (Evaluator.withBuiltins limits .restricted).run gatheringProgram scope = .ok final :=
    rfl
  have hlinear : gatheringProgram.Linear := by decide
  have haccumulates : gatheringProgram.Accumulates ["text"] := by
    show ∀ binding ∈ [("item", Expr.var "value"),
      ("text", .binary .add (.var "text") (.var "item")),
      ("line", .binary .multiply (.str "-") (.int 3))], Expr.Feeds ["text"] binding.1 binding.2
    simp only [List.forall_mem_cons]
    exact ⟨.short (by decide) (by decide),
      .appended (by decide) .add (by decide) (by decide) (.inr (by decide)),
      .short (by decide) (by decide), List.forall_mem_nil _⟩
  obtain ⟨hconstant, hfactor⟩ := run_lengths limits .restricted gatheringProgram scope final hrun
  exact ⟨hrun, haccumulates, hlinear, hconstant ["text"] haccumulates, hfactor hlinear⟩

/-! ## Doubling -/

/-- A program that adds a sequence to itself a number of times. -/
def doublingProgram (n : Nat) : Program :=
  List.replicate n (.assign "x" (.binary .add (.var "x") (.var "x")))

theorem execute_doubling {ev : Evaluator} (hdepth : 2 ≤ ev.limits.maxCallDepth) {k : Nat}
    (hk : k < ev.limits.maxIterations) (items : List Value) :
    execute ev ⟨k, [("x", .list items)]⟩ (.assign "x" (.binary .add (.var "x") (.var "x"))) =
      .ok ⟨k + 1, [("x", .list (items ++ items))]⟩ := by
  have hname : ev.guard.checkName "x" = .ok () := by
    obtain ⟨_, ⟨_ | _⟩, _⟩ := ev <;> rfl
  have hvar : evaluate ev [("x", .list items)] false 1 (.var "x") = .ok (.list items) := by
    have henter : enter ev.limits 1 = .ok 2 := enter_eq_ok.mpr ⟨hdepth, rfl⟩
    rw [evaluate, henter, resolve, hname]
    rfl
  have hsum : evaluate ev [("x", .list items)] false 0 (.binary .add (.var "x") (.var "x")) =
      .ok (.list (items ++ items)) := by
    have henter : enter ev.limits 0 = .ok 1 := enter_eq_ok.mpr ⟨by omega, rfl⟩
    rw [evaluate, henter, ok_bind, hvar]
    rfl
  have htick : tick ev.limits ⟨k, [("x", .list items)]⟩ = .ok ⟨k + 1, [("x", .list items)]⟩ :=
    tick_eq_ok.mpr ⟨hk, rfl⟩
  rw [execute, htick, ok_bind, hname, evaluateIn, hsum]
  rfl

theorem executeBlock_doubling {ev : Evaluator} (hdepth : 2 ≤ ev.limits.maxCallDepth) {n k : Nat}
    (hk : k + n ≤ ev.limits.maxIterations) (items : List Value) :
    ∃ doubled : List Value, doubled.length = 2 ^ n * items.length ∧
      executeBlock ev ⟨k, [("x", .list items)]⟩ (doublingProgram n) =
        .ok ⟨k + n, [("x", .list doubled)]⟩ := by
  induction n generalizing k items with
  | zero =>
      refine ⟨items, by rw [Nat.pow_zero, Nat.one_mul], ?_⟩
      rw [doublingProgram, List.replicate_zero, executeBlock]
      rfl
  | succ n ih =>
      obtain ⟨doubled, hlength, hrest⟩ := ih (k := k + 1) (by omega) (items ++ items)
      refine ⟨doubled, ?_, ?_⟩
      · rw [hlength, List.length_append, Nat.pow_succ, Nat.mul_assoc, Nat.two_mul]
      · rw [doublingProgram, List.replicate_succ, executeBlock,
          execute_doubling hdepth (by omega), ok_bind, Nat.add_comm n 1, ← Nat.add_assoc]
        exact hrest

/-- The limit by the factor of a program is reached: a list that is added to itself `n` times is
`2 ^ n` times as long. -/
theorem doublingProgram_run {ev : Evaluator} (hdepth : 2 ≤ ev.limits.maxCallDepth) {n : Nat}
    (hn : n ≤ ev.limits.maxIterations) (items : List Value) :
    ∃ doubled : List Value, doubled.length = 2 ^ n * items.length ∧
      ev.run (doublingProgram n) [("x", .list items)] = .ok [("x", .list doubled)] := by
  obtain ⟨doubled, hlength, hblock⟩ :=
    executeBlock_doubling hdepth (n := n) (k := 0) (by omega) items
  refine ⟨doubled, hlength, ?_⟩
  rw [Evaluator.run, hblock]
  rfl

/-- The number of characters or items of a value itself. -/
def Value.length : Value → Nat
  | .str s => s.length
  | .list items => items.length
  | _ => 0

/-- A run ends with a text or list in `x` that is longer than if each step added a constant. -/
def Exceeds (limits : Limits) (program : Program) (scope : Scope) : Prop :=
  ∃ (final : Scope) (longer : Value),
    (Evaluator.withBuiltins limits .restricted).run program scope = .ok final ∧
      Table.get? final "x" = some longer ∧
      (limits.maxIterations + 1) *
        (limits.maxIterations + (scope.size + program.literalSize)) < longer.length

/-- A list of one item has 64 items after six steps, where it would have 49 if each step added a
constant. One step is enough for each of the functions whose results have no factor. -/
theorem lengths_exceed :
    Exceeds { maxIterations := 6 } (doublingProgram 6) [("x", .list [.int 0])] ∧
      Exceeds { maxIterations := 1 }
        [.assign "x" (.call (.var "replace") [.var "x", .str "", .var "x"])]
        [("x", .str "abc")] ∧
      Exceeds { maxIterations := 1 }
        [.assign "x" (.call (.var "join") [.call (.var "list") [.var "x"], .var "x"])]
        [("x", .str "abcd")] ∧
      Exceeds { maxIterations := 1 } [.assign "x" (.call (.var "str") [.var "x"])]
        [("x", .list [.int 0, .int 0, .int 0])] := by
  refine ⟨?doubling, ?replace, ?join, ?str⟩
  case doubling =>
    have hdepth : 2 ≤ (Evaluator.withBuiltins
        { maxIterations := 6 } .restricted).limits.maxCallDepth := by decide
    obtain ⟨doubled, hlength, hrun⟩ := doublingProgram_run hdepth (n := 6) (Nat.le_refl 6) [.int 0]
    refine ⟨_, .list doubled, hrun, rfl, ?_⟩
    rw [Value.length, hlength]
    decide
  case replace => exact ⟨_, .str "abcaabcbabccabc", rfl, rfl, by decide⟩
  case join => exact ⟨_, .str "aabcdbabcdcabcdd", rfl, rfl, by decide⟩
  case str => exact ⟨_, .str "[0, 0, 0]", rfl, rfl, by decide⟩

end SchemaGuard
