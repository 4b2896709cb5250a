import SchemaGuard.Engine
import SchemaGuard.Proofs.Program.Coupling

/-! # What a program leaves alone

Assignments, loops and imports bind names, and nothing else in a program changes its scope.
A property of scopes that survives the bindings of a program survives its runs; in
particular a name that a program does not bind keeps its value.
-/

namespace SchemaGuard

open Outcome

namespace Use

/-- The name that a use binds. There is no other module to import than `string`. -/
def bound? : Use → Option String
  | .binds name => some name
  | .imports name => if name = "string" then some name else none
  | .reads _ | .calls _ | .selects _ | .invokes _ => none

/-- A use keeps a property of scopes when the property survives each binding of the name that the
use binds. -/
def Keeps (property : Scope → Prop) (use : Use) : Prop :=
  ∀ name, use.bound? = some name → ∀ scope value,
    property scope → property (Table.insert scope name value)

/-- A use keeps a property of scopes under a guard when it keeps the property or the guard refuses
the name that the use binds. -/
def KeepsUnder (guard : Guard) (property : Scope → Prop) (use : Use) : Prop :=
  guard.check use = .ok () → use.Keeps property

end Use

/-- A program binds a name when it assigns to it, loops over it or imports a module of that name
somewhere. -/
def Program.Binds (program : Program) (name : String) : Prop :=
  ∃ use ∈ program.uses, use.bound? = some name

instance (program : Program) (name : String) : Decidable (program.Binds name) :=
  inferInstanceAs (Decidable (∃ use ∈ program.uses, use.bound? = some name))

theorem Program.binds_append {first second : Program} {name : String} :
    Program.Binds (first ++ second) name ↔ first.Binds name ∨ second.Binds name := by
  unfold Program.Binds Program.uses
  rw [Statement.usesOfBlock_append]
  simp only [List.mem_append, or_and_right, exists_or]

namespace Eval

variable {ev : Evaluator} {property : Scope → Prop}

theorem tick_scope {limits : Limits} {state next : State} (htick : tick limits state = .ok next) :
    next.scope = state.scope := by
  unfold tick at htick
  split at htick
  · cases htick
    rfl
  · cases htick

theorem importModule_keeps {state : State} {path : List String}
    (huses : ∀ use ∈ path.head?.toList.map Use.imports, use.KeepsUnder ev.guard property)
    (hstate : property state.scope) :
    Yields (fun next => property next.scope) (importModule ev state path) := by
  unfold importModule
  refine Yields.bind fun _ hcheck => ?_
  split
  next hpath =>
    subst hpath
    have hstring := huses (.imports "string") (by simp) (guarded_eq_ok.mp hcheck)
    exact (Yields.ok_iff _).mpr (hstring "string" rfl state.scope stringModule hstate)
  next => exact Yields.error _

mutual

theorem execute_keeps : ∀ (statement : Statement) {state : State}, property state.scope →
    (∀ use ∈ statement.uses, use.KeepsUnder ev.guard property) →
      Yields (fun next => property next.scope) (execute ev state statement)
  | .pass, _, hstate, _ => by
      rw [execute]
      intro next htick
      rwa [tick_scope htick]
  | .expr e, _, hstate, _ => by
      rw [execute]
      refine Yields.bind fun next htick => Yields.bind fun _ _ => ?_
      rwa [pure_eq_ok, Yields.ok_iff, tick_scope htick]
  | .assign target value, _, hstate, huses => by
      obtain ⟨htarget, _⟩ := List.forall_mem_cons.mp huses
      rw [execute]
      refine Yields.bind fun next htick => Yields.bind fun _ hcheck => Yields.bind fun value _ => ?_
      have htarget := htarget (guarded_eq_ok.mp hcheck)
      rw [← tick_scope htick] at hstate
      exact (Yields.ok_iff _).mpr (htarget target rfl next.scope value hstate)
  | .branch branches otherwise, _, hstate, huses => by
      obtain ⟨hbranches, hotherwise⟩ := List.forall_mem_append.mp huses
      rw [execute]
      refine Yields.bind fun next htick => Yields.bind fun taken htaken => ?_
      rw [← tick_scope htick] at hstate
      cases taken with
      | some taken =>
          have htaken := executeBranches_keeps branches hstate hbranches _ htaken
          exact (Yields.ok_iff _).mpr (htaken taken rfl)
      | none => exact executeBlock_keeps otherwise hstate hotherwise
  | .loop name iterable body, _, hstate, huses => by
      obtain ⟨hname, huses⟩ := List.forall_mem_cons.mp huses
      obtain ⟨_, hbody⟩ := List.forall_mem_append.mp huses
      rw [execute]
      refine Yields.bind fun next htick => Yields.bind fun _ hcheck =>
        Yields.bind fun source _ => ?_
      have hname := hname (guarded_eq_ok.mp hcheck)
      rw [← tick_scope htick] at hstate
      split
      next items _ =>
        -- A round begins with the scope that the last one left and binds the name in it.
        refine Yields.foldlM items (fun state item hstate => ?_) hstate
        refine Yields.bind fun next htick => executeBlock_keeps body ?_ hbody
        rw [← tick_scope htick] at hstate
        exact hname name rfl next.scope item hstate
      next => exact Yields.error _
  | .raise kind message, _, _, _ => by
      rw [execute]
      exact Yields.bind fun _ _ => Yields.bind fun _ _ => Yields.error _
  | .assert condition message, _, hstate, _ => by
      rw [execute]
      refine Yields.bind fun next htick => Yields.bind fun value _ => ?_
      split
      · rwa [pure_eq_ok, Yields.ok_iff, tick_scope htick]
      · exact Yields.bind fun _ _ => Yields.error _
  | .importModule path, _, hstate, huses => by
      rw [execute]
      refine Yields.bind fun next htick => importModule_keeps huses ?_
      rwa [tick_scope htick]

theorem executeBlock_keeps : ∀ (block : List Statement) {state : State}, property state.scope →
    (∀ use ∈ Statement.usesOfBlock block, use.KeepsUnder ev.guard property) →
      Yields (fun next => property next.scope) (executeBlock ev state block)
  | [], _, hstate, _ => by
      rw [executeBlock]
      exact (Yields.ok_iff _).mpr hstate
  | statement :: rest, _, hstate, huses => by
      obtain ⟨hstatement, hrest⟩ := List.forall_mem_append.mp huses
      rw [executeBlock]
      exact Yields.bind fun next hnext =>
        executeBlock_keeps rest (execute_keeps statement hstate hstatement next hnext) hrest

theorem executeBranches_keeps : ∀ (branches : List (Expr × List Statement)) {state : State},
    property state.scope →
      (∀ use ∈ Statement.usesOfBranches branches, use.KeepsUnder ev.guard property) →
      Yields (fun taken => ∀ next, taken = some next → property next.scope)
        (executeBranches ev state branches)
  | [], _, _, _ => by
      rw [executeBranches]
      simp
  | (condition, body) :: rest, _, hstate, huses => by
      obtain ⟨_, huses⟩ := List.forall_mem_append.mp huses
      obtain ⟨hbody, hrest⟩ := List.forall_mem_append.mp huses
      rw [executeBranches]
      refine Yields.bind fun value _ => ?_
      split
      · refine Yields.bind fun next hnext => ?_
        have hnext := executeBlock_keeps body hstate hbody next hnext
        simpa using hnext
      · exact executeBranches_keeps rest hstate hrest

end

end Eval

namespace Evaluator

variable {ev : Evaluator} {program : Program} {scope final : Scope}

/-- A property that the permitted bindings of a program keep holds at the end of a run if it holds
at the beginning. -/
theorem run_keepsUnder (property : Scope → Prop)
    (huses : ∀ use ∈ program.uses, use.KeepsUnder ev.guard property)
    (hscope : property scope) (hrun : ev.run program scope = .ok final) : property final := by
  obtain ⟨state, hstate, rfl⟩ := map_eq_ok.mp hrun
  exact Eval.executeBlock_keeps program hscope huses state hstate

/-- A property that all bindings of a program keep holds at the end of a run if it holds at the
beginning. -/
theorem run_keeps (property : Scope → Prop) (huses : ∀ use ∈ program.uses, use.Keeps property)
    (hscope : property scope) (hrun : ev.run program scope = .ok final) : property final :=
  run_keepsUnder property (fun use huse _ => huses use huse) hscope hrun

/-- A name that a program does not bind keeps its value, and stays unbound if it has none. -/
theorem run_frame {name : String} (hname : ¬ program.Binds name)
    (hrun : ev.run program scope = .ok final) : Table.get? final name = Table.get? scope name := by
  refine run_keeps (fun reached => Table.get? reached name = Table.get? scope name)
    (fun use huse bound hbound reached value hreached => ?_) rfl hrun
  have hne : bound ≠ name := by
    rintro rfl
    exact hname ⟨use, huse, hbound⟩
  show Table.get? (Table.insert reached bound value) name = Table.get? scope name
  rw [Table.get?_insert, if_neg hne]
  exact hreached

/-- No name becomes unbound. -/
theorem run_bound {name : String} {value : Value} (hvalue : Table.get? scope name = some value)
    (hrun : ev.run program scope = .ok final) : ∃ now, Table.get? final name = some now := by
  refine run_keeps (fun reached => ∃ now, Table.get? reached name = some now)
    (fun _ _ bound _ reached value hreached => ?_) ⟨value, hvalue⟩ hrun
  obtain ⟨now, hnow⟩ := hreached
  by_cases hbound : bound = name
  · exact ⟨value, by rw [Table.get?_insert, if_pos hbound]⟩
  · exact ⟨now, by rw [Table.get?_insert, if_neg hbound, hnow]⟩

end Evaluator

end SchemaGuard
