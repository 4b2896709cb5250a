import SchemaGuard.Proofs.Outcome
import SchemaGuard.Proofs.Program.Uses
import SchemaGuard.Eval.Run

/-! # Coupled runs

Two runs of one program, with two evaluators and from two scopes, cannot be told apart as
long as no single use in the program tells their surroundings apart. The expressions of the
program then have the same values or the same failures, and the runs end with the same
failure or with scopes that are still related.
-/

namespace SchemaGuard

open Outcome Eval

theorem Eval.guarded_eq_ok {check : Except Forbidden Unit} :
    guarded check = .ok () ↔ check = .ok () := by
  cases check <;> simp [guarded]

/-- No guard refuses a name that is not on the list. -/
theorem Guard.guarded_checkName (guard : Guard) {name : String} (hname : isDenied name = false) :
    guarded (guard.checkName name) = .ok () := by
  simp [Guard.checkName, Guard.hides, hname, guarded]

/-- Whether a use has the same effect in two surroundings. A guard that refuses a call in both
hides the function that would be called. -/
def Use.Alike (ev ev' : Evaluator) (scope scope' : Scope) (use : Use) : Prop :=
  guarded (ev.guard.check use) = guarded (ev'.guard.check use) ∧
    match use with
    | .reads name =>
        resolve ev scope name = resolve ev' scope' name ∧
          namesKind scope name = namesKind scope' name
    | .calls name | .invokes name =>
        guarded (ev.guard.check use) = .ok () →
          ev.functions.has name = ev'.functions.has name ∧
            ∀ args, callFunction ev name args = callFunction ev' name args
    | .binds _ | .imports _ | .selects _ => True

namespace Eval

section Expressions

variable {ev ev' : Evaluator} {scope scope' : Scope}

theorem followPath_congr {names : List String}
    (huses : ∀ use ∈ names.map Use.selects, use.Alike ev ev' scope scope') (value : Value) :
    followPath ev value names = followPath ev' value names := by
  induction names generalizing value with
  | nil => rfl
  | cons name rest ih =>
      obtain ⟨hname, hrest⟩ := List.forall_mem_cons.mp huses
      exact bind_congr hname.1 fun _ _ => bind_congr rfl fun inner _ => ih hrest inner

theorem resolvePath_congr {parts : List String}
    (huses : ∀ use ∈ Expr.usesOfPath parts, use.Alike ev ev' scope scope') :
    resolvePath ev scope parts = resolvePath ev' scope' parts := by
  cases parts with
  | nil => rfl
  | cons root rest =>
      obtain ⟨hroot, hrest⟩ := List.forall_mem_cons.mp huses
      exact bind_congr hroot.2.1 fun value _ => followPath_congr hrest value

theorem enter_congr (hlimits : ev.limits = ev'.limits) (depth : Nat) :
    enter ev.limits depth = enter ev'.limits depth := by
  rw [hlimits]

mutual

theorem evaluate_congr (hlimits : ev.limits = ev'.limits) :
    ∀ (e : Expr) (kindExpected : Bool) (depth : Nat),
    (∀ use ∈ e.uses, use.Alike ev ev' scope scope') →
      evaluate ev scope kindExpected depth e = evaluate ev' scope' kindExpected depth e
  | .null, _, depth, _ | .bool _, _, depth, _ | .int _, _, depth, _ | .float _, _, depth, _
  | .str _, _, depth, _ => by
      rw [evaluate, evaluate, hlimits]
  | .list items, kindExpected, depth, huses => by
      rw [evaluate, evaluate, evaluateList_congr hlimits items true depth huses]
      split
      · rfl
      · exact bind_congr (enter_congr hlimits depth) fun depth _ =>
          bind_congr (evaluateList_congr hlimits items false depth huses) fun _ _ => rfl
  | .var name, kindExpected, depth, huses => by
      obtain ⟨hcheck, hread, hkind⟩ := huses (.reads name) List.mem_cons_self
      -- The name stands for a kind of values in both scopes or in neither.
      rw [evaluate, evaluate, hkind]
      split
      · exact bind_congr hcheck fun _ _ => rfl
      · exact bind_congr (enter_congr hlimits depth) fun _ _ => hread
  | .path parts, _, depth, huses => by
      rw [evaluate, evaluate]
      exact bind_congr (enter_congr hlimits depth) fun _ _ => resolvePath_congr huses
  | .binary op left right, _, depth, huses => by
      obtain ⟨hleft, hright⟩ := List.forall_mem_append.mp huses
      rw [evaluate, evaluate]
      exact bind_congr (enter_congr hlimits depth) fun depth _ =>
        bind_congr (evaluate_congr hlimits left false depth hleft) fun l _ =>
        bind_congr (evaluate_congr hlimits right false depth hright) fun r _ => by rw [hlimits]
  | .compare first links, _, depth, huses => by
      obtain ⟨hfirst, hlinks⟩ := List.forall_mem_append.mp huses
      rw [evaluate, evaluate]
      exact bind_congr (enter_congr hlimits depth) fun depth _ =>
        bind_congr (evaluate_congr hlimits first false depth hfirst) fun left _ =>
        evaluateLinks_congr hlimits links depth left hlinks
  | .negate operand, _, depth, huses | .not operand, _, depth, huses => by
      rw [evaluate, evaluate]
      exact bind_congr (enter_congr hlimits depth) fun depth _ =>
        bind_congr (evaluate_congr hlimits operand false depth huses) fun _ _ => rfl
  | .and left right, _, depth, huses | .or left right, _, depth, huses => by
      obtain ⟨hleft, hright⟩ := List.forall_mem_append.mp huses
      rw [evaluate, evaluate]
      exact bind_congr (enter_congr hlimits depth) fun depth _ =>
        bind_congr (evaluate_congr hlimits left false depth hleft) fun l _ => by
          rw [evaluate_congr hlimits right false depth hright]
  | .attr object name, _, depth, huses => by
      obtain ⟨hname, hobject⟩ := List.forall_mem_cons.mp huses
      rw [evaluate, evaluate]
      exact bind_congr (enter_congr hlimits depth) fun depth _ =>
        bind_congr hname.1 fun _ _ =>
        bind_congr (evaluate_congr hlimits object false depth hobject) fun _ _ => rfl
  | .index object position, _, depth, huses => by
      obtain ⟨hobject, hposition⟩ := List.forall_mem_append.mp huses
      rw [evaluate, evaluate]
      exact bind_congr (enter_congr hlimits depth) fun depth _ =>
        bind_congr (evaluate_congr hlimits object false depth hobject) fun _ _ =>
        bind_congr (evaluate_congr hlimits position false depth hposition) fun _ _ => rfl
  | .call callee args, _, depth, huses => by
      have hargs := evaluateArgs_congr hlimits args
      have hcallee := evaluate_congr hlimits callee
      cases callee with
      | var name =>
          obtain ⟨⟨hcheck, hfunction⟩, huses⟩ := List.forall_mem_cons.mp huses
          rw [evaluate, evaluate]
          refine bind_congr (enter_congr hlimits depth) fun depth _ =>
            bind_congr hcheck fun _ hpermitted => ?_
          -- The functions are compared only where the call gets past the guard.
          obtain ⟨hhas, hcall⟩ := hfunction hpermitted
          rw [hhas, hargs depth name 0 huses]
          split
          · exact bind_congr rfl fun values _ => hcall values
          · rfl
      | attr object name =>
          obtain ⟨⟨hcheck, hfunction⟩, huses⟩ := List.forall_mem_cons.mp huses
          obtain ⟨hobject, huses⟩ := List.forall_mem_append.mp huses
          rw [evaluate, evaluate]
          refine bind_congr (enter_congr hlimits depth) fun depth _ =>
            bind_congr hcheck fun _ hpermitted =>
            bind_congr (evaluate_congr hlimits object false depth hobject) fun receiver _ => ?_
          obtain ⟨hhas, hcall⟩ := hfunction hpermitted
          rw [hhas, hargs depth name 0 huses]
          split
          · exact bind_congr rfl fun values _ => hcall (receiver :: values)
          · rfl
      | _ =>
          obtain ⟨huses, _⟩ := List.forall_mem_append.mp huses
          rw [evaluate, evaluate]
          · exact bind_congr (enter_congr hlimits depth) fun depth _ =>
              bind_congr (hcallee false depth huses) fun _ _ => rfl
          all_goals
            intros
            contradiction
  | .cond condition whenTrue whenFalse, _, depth, huses => by
      obtain ⟨hcondition, huses⟩ := List.forall_mem_append.mp huses
      obtain ⟨htrue, hfalse⟩ := List.forall_mem_append.mp huses
      rw [evaluate, evaluate]
      exact bind_congr (enter_congr hlimits depth) fun depth _ =>
        bind_congr (evaluate_congr hlimits condition false depth hcondition) fun value _ => by
          rw [evaluate_congr hlimits whenTrue false depth htrue,
            evaluate_congr hlimits whenFalse false depth hfalse]

theorem evaluateList_congr (hlimits : ev.limits = ev'.limits) :
    ∀ (items : List Expr) (kindExpected : Bool) (depth : Nat),
    (∀ use ∈ Expr.usesOfList items, use.Alike ev ev' scope scope') →
      evaluateList ev scope kindExpected depth items =
        evaluateList ev' scope' kindExpected depth items
  | [], _, _, _ => by rw [evaluateList, evaluateList]
  | e :: rest, kindExpected, depth, huses => by
      obtain ⟨he, hrest⟩ := List.forall_mem_append.mp huses
      rw [evaluateList, evaluateList, evaluate_congr hlimits e kindExpected depth he,
        evaluateList_congr hlimits rest kindExpected depth hrest]

theorem evaluateArgs_congr (hlimits : ev.limits = ev'.limits) :
    ∀ (args : List Expr) (depth : Nat) (function : String) (position : Nat),
    (∀ use ∈ Expr.usesOfList args, use.Alike ev ev' scope scope') →
      evaluateArgs ev scope depth function position args =
        evaluateArgs ev' scope' depth function position args
  | [], _, _, _, _ => by rw [evaluateArgs, evaluateArgs]
  | e :: rest, depth, function, position, huses => by
      obtain ⟨he, hrest⟩ := List.forall_mem_append.mp huses
      rw [evaluateArgs, evaluateArgs, evaluate_congr hlimits e _ depth he,
        evaluateArgs_congr hlimits rest depth function (position + 1) hrest]

theorem evaluateLinks_congr (hlimits : ev.limits = ev'.limits) :
    ∀ (links : List (CompareOp × Expr)) (depth : Nat) (left : Value),
    (∀ use ∈ Expr.usesOfLinks links, use.Alike ev ev' scope scope') →
      evaluateLinks ev scope depth left links = evaluateLinks ev' scope' depth left links
  | [], _, _, _ => by rw [evaluateLinks, evaluateLinks]
  | (op, operand) :: rest, depth, left, huses => by
      obtain ⟨hoperand, hrest⟩ := List.forall_mem_append.mp huses
      rw [evaluateLinks, evaluateLinks]
      exact bind_congr (evaluate_congr hlimits operand false depth hoperand) fun right _ =>
        bind_congr rfl fun holds _ => by rw [evaluateLinks_congr hlimits rest depth right hrest]

end

end Expressions

end Eval

/-! ## Statements -/

/-- A relation between the scopes of two runs that lasts while both bind the same names to the
same values. -/
structure Coupling (ev ev' : Evaluator) where
  Related : Scope → Scope → Prop
  limits : ev.limits = ev'.limits
  insert : ∀ {scope scope' : Scope} (name : String) (value : Value), Related scope scope' →
    Related (Table.insert scope name value) (Table.insert scope' name value)

namespace Coupling

variable {ev ev' : Evaluator} (coupling : Coupling ev ev')

/-- Whether a use has the same effect in all related scopes. -/
def Alike (use : Use) : Prop :=
  ∀ scope scope', coupling.Related scope scope' → use.Alike ev ev' scope scope'

/-- Two runs are related when they have taken as many steps and their scopes are related. -/
def RelatedStates (state state' : State) : Prop :=
  state.steps = state'.steps ∧ coupling.Related state.scope state'.scope

variable {coupling} {state state' : State}

theorem tick_coupled (hstate : coupling.RelatedStates state state') :
    Agree coupling.RelatedStates (tick ev.limits state) (tick ev'.limits state') := by
  obtain ⟨hsteps, hscope⟩ := hstate
  unfold tick
  rw [← coupling.limits, ← hsteps]
  split
  · exact ⟨rfl, hscope⟩
  · exact rfl

theorem bind_coupled (hstate : coupling.RelatedStates state state') (name : String)
    (value : Value) : coupling.RelatedStates (state.bind name value) (state'.bind name value) :=
  ⟨hstate.1, coupling.insert name value hstate.2⟩

theorem evaluateIn_coupled (hstate : coupling.RelatedStates state state') {e : Expr}
    (huses : ∀ use ∈ e.uses, coupling.Alike use) :
    evaluateIn ev state e = evaluateIn ev' state' e :=
  evaluate_congr coupling.limits e false 0 fun use huse => huses use huse _ _ hstate.2

theorem messageText_coupled (hstate : coupling.RelatedStates state state') (fallback : String)
    {message : Option Expr} (huses : ∀ use ∈ Expr.usesOfOption message, coupling.Alike use) :
    messageText ev state fallback message = messageText ev' state' fallback message := by
  cases message with
  | none => rfl
  | some e => exact congrArg (Except.map Value.display) (evaluateIn_coupled hstate huses)

theorem importModule_coupled (hstate : coupling.RelatedStates state state') {path : List String}
    (huses : ∀ use ∈ path.head?.toList.map Use.imports, coupling.Alike use) :
    Agree coupling.RelatedStates (importModule ev state path) (importModule ev' state' path) := by
  have hcheck : guarded (ev.guard.checkModule path) = guarded (ev'.guard.checkModule path) := by
    cases path with
    | nil => rfl
    | cons root rest => exact (huses (.imports root) List.mem_cons_self _ _ hstate.2).1
  refine Agree.bind_eq hcheck fun _ => ?_
  split
  · exact bind_coupled hstate _ _
  · exact rfl

mutual

theorem execute_coupled : ∀ (statement : Statement) {state state' : State},
    coupling.RelatedStates state state' → (∀ use ∈ statement.uses, coupling.Alike use) →
      Agree coupling.RelatedStates (execute ev state statement) (execute ev' state' statement)
  | .pass, _, _, hstate, _ => by
      rw [execute, execute]
      exact tick_coupled hstate
  | .expr e, _, _, hstate, huses => by
      rw [execute, execute]
      exact (tick_coupled hstate).bind fun _ _ hstate =>
        Agree.bind_eq (evaluateIn_coupled hstate huses) fun _ => hstate
  | .assign target value, _, _, hstate, huses => by
      obtain ⟨htarget, hvalue⟩ := List.forall_mem_cons.mp huses
      rw [execute, execute]
      exact (tick_coupled hstate).bind fun _ _ hstate =>
        Agree.bind_eq (htarget _ _ hstate.2).1 fun _ =>
        Agree.bind_eq (evaluateIn_coupled hstate hvalue) fun value => bind_coupled hstate _ _
  | .branch branches otherwise, _, _, hstate, huses => by
      obtain ⟨hbranches, hotherwise⟩ := List.forall_mem_append.mp huses
      rw [execute, execute]
      refine (tick_coupled hstate).bind fun _ _ hstate =>
        (executeBranches_coupled branches hstate hbranches).bind fun taken taken' htaken => ?_
      cases htaken with
      | some htaken => exact htaken
      | none => exact executeBlock_coupled otherwise hstate hotherwise
  | .loop name iterable body, _, _, hstate, huses => by
      obtain ⟨hname, huses⟩ := List.forall_mem_cons.mp huses
      obtain ⟨hiterable, hbody⟩ := List.forall_mem_append.mp huses
      rw [execute, execute]
      refine (tick_coupled hstate).bind fun _ _ hstate =>
        Agree.bind_eq (hname _ _ hstate.2).1 fun _ =>
        Agree.bind_eq (evaluateIn_coupled hstate hiterable) fun source => ?_
      split
      next items _ =>
        -- Both runs loop over the same items, so their rounds are coupled one by one.
        refine Agree.foldlM items (fun _ _ item hstate => ?_) hstate
        exact (tick_coupled hstate).bind fun _ _ hstate =>
          executeBlock_coupled body (bind_coupled hstate name item) hbody
      next => exact rfl
  | .raise kind message, _, _, hstate, huses => by
      rw [execute, execute]
      exact (tick_coupled hstate).bind fun _ _ hstate =>
        Agree.bind_eq (messageText_coupled hstate kind huses) fun _ => rfl
  | .assert condition message, _, _, hstate, huses => by
      obtain ⟨hcondition, hmessage⟩ := List.forall_mem_append.mp huses
      rw [execute, execute]
      refine (tick_coupled hstate).bind fun _ _ hstate =>
        Agree.bind_eq (evaluateIn_coupled hstate hcondition) fun value => ?_
      split
      · exact hstate
      · exact Agree.bind_eq (messageText_coupled hstate _ hmessage) fun _ => rfl
  | .importModule path, _, _, hstate, huses => by
      rw [execute, execute]
      exact (tick_coupled hstate).bind fun _ _ hstate => importModule_coupled hstate huses

theorem executeBlock_coupled : ∀ (block : List Statement) {state state' : State},
    coupling.RelatedStates state state' →
      (∀ use ∈ Statement.usesOfBlock block, coupling.Alike use) →
      Agree coupling.RelatedStates (executeBlock ev state block) (executeBlock ev' state' block)
  | [], _, _, hstate, _ => by
      rw [executeBlock, executeBlock]
      exact hstate
  | statement :: rest, _, _, hstate, huses => by
      obtain ⟨hstatement, hrest⟩ := List.forall_mem_append.mp huses
      rw [executeBlock, executeBlock]
      exact (execute_coupled statement hstate hstatement).bind fun _ _ hstate =>
        executeBlock_coupled rest hstate hrest

theorem executeBranches_coupled : ∀ (branches : List (Expr × List Statement))
    {state state' : State}, coupling.RelatedStates state state' →
      (∀ use ∈ Statement.usesOfBranches branches, coupling.Alike use) →
      Agree (Option.Rel coupling.RelatedStates) (executeBranches ev state branches)
        (executeBranches ev' state' branches)
  | [], _, _, _, _ => by
      rw [executeBranches, executeBranches]
      exact .none
  | (condition, body) :: rest, _, _, hstate, huses => by
      obtain ⟨hcondition, huses⟩ := List.forall_mem_append.mp huses
      obtain ⟨hbody, hrest⟩ := List.forall_mem_append.mp huses
      rw [executeBranches, executeBranches]
      refine Agree.bind_eq (evaluateIn_coupled hstate hcondition) fun value => ?_
      split
      · exact (executeBlock_coupled body hstate hbody).bind fun _ _ hstate => .some hstate
      · exact executeBranches_coupled rest hstate hrest

end

/-- Runs from related scopes end with the same failure or with related scopes. -/
theorem run_coupled (coupling : Coupling ev ev') {program : Program}
    (huses : ∀ use ∈ program.uses, coupling.Alike use) {scope scope' : Scope}
    (hscope : coupling.Related scope scope') :
    Agree coupling.Related (ev.run program scope) (ev'.run program scope') := by
  have hstart : coupling.RelatedStates ⟨0, scope⟩ ⟨0, scope'⟩ := ⟨rfl, hscope⟩
  exact (executeBlock_coupled program hstart huses).map fun _ _ hstate => hstate.2

end Coupling

end SchemaGuard
