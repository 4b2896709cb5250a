import SchemaGuard.Guard
import SchemaGuard.Proofs.Outcome

/-! # What a program uses

The names that a program reads, calls, binds and imports, and the attributes that it
selects and invokes, in the order in which the structural screen meets them. The screen is
exactly the check of these uses one after the other, so it accepts a program if and only if
the guard permits every use in it, wherever it stands.
-/

namespace SchemaGuard

/-- A place in a program in which a guard has a say. -/
inductive Use where
  | reads (name : String)
  | calls (name : String)
  | binds (name : String)
  | imports (name : String)
  | selects (name : String)
  | invokes (name : String)
deriving DecidableEq, Repr

namespace Expr

/-- The uses of a path: its root is read, and its other parts are selected. -/
def usesOfPath : List String → List Use
  | [] => []
  | root :: rest => .reads root :: rest.map .selects

mutual

/-- The uses of an expression. -/
def uses : Expr → List Use
  | .null | .bool _ | .int _ | .float _ | .str _ => []
  | .var name => [.reads name]
  | .path parts => usesOfPath parts
  | .list items => usesOfList items
  | .binary _ l r | .and l r | .or l r | .index l r => l.uses ++ r.uses
  | .compare first links => first.uses ++ usesOfLinks links
  | .negate e | .not e => e.uses
  | .attr object name => .selects name :: object.uses
  | .call (.var name) args => .calls name :: usesOfList args
  | .call (.attr object name) args => .invokes name :: (object.uses ++ usesOfList args)
  | .call callee args => callee.uses ++ usesOfList args
  | .cond c t e => c.uses ++ (t.uses ++ e.uses)

/-- The uses of expressions in order. -/
def usesOfList : List Expr → List Use
  | [] => []
  | e :: rest => e.uses ++ usesOfList rest

/-- The uses of the further operands of a comparison. -/
def usesOfLinks : List (CompareOp × Expr) → List Use
  | [] => []
  | (_, e) :: rest => e.uses ++ usesOfLinks rest

end

/-- The uses of an expression that may be missing. -/
def usesOfOption : Option Expr → List Use
  | none => []
  | some e => e.uses

end Expr

mutual

/-- The uses of a statement. -/
def Statement.uses : Statement → List Use
  | .expr e => e.uses
  | .assign target value => .binds target :: value.uses
  | .branch branches otherwise => usesOfBranches branches ++ usesOfBlock otherwise
  | .loop name iterable body => .binds name :: (iterable.uses ++ usesOfBlock body)
  | .raise _ message => Expr.usesOfOption message
  | .assert condition message => condition.uses ++ Expr.usesOfOption message
  | .importModule path => path.head?.toList.map .imports
  | .pass => []

/-- The uses of statements in order. -/
def Statement.usesOfBlock : List Statement → List Use
  | [] => []
  | statement :: rest => statement.uses ++ usesOfBlock rest

/-- The uses of conditions and their bodies in order. -/
def Statement.usesOfBranches : List (Expr × List Statement) → List Use
  | [] => []
  | (condition, body) :: rest => condition.uses ++ (usesOfBlock body ++ usesOfBranches rest)

end

/-- The uses of a program. -/
def Program.uses (program : Program) : List Use :=
  Statement.usesOfBlock program

theorem Statement.usesOfBlock_append (first second : List Statement) :
    usesOfBlock (first ++ second) = usesOfBlock first ++ usesOfBlock second := by
  induction first with
  | nil => rfl
  | cons statement rest ih => simp only [List.cons_append, usesOfBlock, ih, List.append_assoc]

/-! ## The screen as a check of uses -/

namespace Guard

open Outcome

variable (guard : Guard)

/-- Checks one use. -/
def check : Use → Except Forbidden Unit
  | .reads name | .calls name | .binds name | .imports name => guard.checkName name
  | .selects name | .invokes name => guard.checkAttribute name

/-- Checks uses in order. -/
def checkAll : List Use → Except Forbidden Unit
  | [] => .ok ()
  | use :: rest => do
      guard.check use
      checkAll rest

/-- A guard permits uses when it refuses none of them. -/
def Permits (uses : List Use) : Prop :=
  ∀ use ∈ uses, guard.check use = .ok ()

@[simp] theorem permits_nil : guard.Permits [] := by
  simp [Permits]

@[simp] theorem permits_cons (use : Use) (rest : List Use) :
    guard.Permits (use :: rest) ↔ guard.check use = .ok () ∧ guard.Permits rest := by
  simp [Permits]

@[simp] theorem permits_append (first second : List Use) :
    guard.Permits (first ++ second) ↔ guard.Permits first ∧ guard.Permits second := by
  simp [Permits, or_imp, forall_and]

theorem checkAll_append (first second : List Use) :
    guard.checkAll (first ++ second) = (do guard.checkAll first; guard.checkAll second) := by
  induction first with
  | nil => rfl
  | cons use rest ih =>
      simp only [List.cons_append, checkAll, ih]
      cases guard.check use <;> rfl

theorem checkAll_eq_ok_iff (uses : List Use) :
    guard.checkAll uses = .ok () ↔ guard.Permits uses := by
  induction uses with
  | nil => simp [checkAll]
  | cons use rest ih =>
      rw [permits_cons, ← ih]
      cases hcheck : guard.check use with
      | error refusal => simp [checkAll, hcheck, bind, Except.bind]
      | ok _ => simp [checkAll, hcheck, bind, Except.bind]

theorem checkAttributes_eq (names : List String) :
    guard.checkAttributes names = guard.checkAll (names.map .selects) := by
  induction names with
  | nil => rfl
  | cons name rest ih => simp only [checkAttributes, List.map_cons, checkAll, check, ih]

theorem checkPath_eq (parts : List String) :
    guard.checkPath parts = guard.checkAll (Expr.usesOfPath parts) := by
  cases parts with
  | nil => rfl
  | cons root rest => simp only [checkPath, Expr.usesOfPath, checkAll, check, checkAttributes_eq]

theorem checkModule_eq (path : List String) :
    guard.checkModule path = guard.checkAll (path.head?.toList.map .imports) := by
  cases path with
  | nil => rfl
  | cons root rest =>
      simp only [checkModule, List.head?_cons, Option.toList_some, List.map_cons, List.map_nil,
        checkAll, check]
      cases guard.checkName root <;> rfl

/-! The screen walks over a program just as its uses are listed. -/

mutual

theorem screenExpr_eq : ∀ e : Expr, guard.screenExpr e = guard.checkAll e.uses
  | .null | .bool _ | .int _ | .float _ | .str _ => by simp only [screenExpr, Expr.uses, checkAll]
  | .var name => by
      simp only [screenExpr, Expr.uses, checkAll, check]
      cases guard.checkName name <;> rfl
  | .path parts => by rw [screenExpr, Expr.uses, checkPath_eq]
  | .list items => by rw [screenExpr, Expr.uses, screenExprs_eq items]
  | .binary _ l r | .and l r | .or l r | .index l r => by
      rw [screenExpr, Expr.uses, checkAll_append, screenExpr_eq l, screenExpr_eq r]
  | .compare first links => by
      rw [screenExpr, Expr.uses, checkAll_append, screenExpr_eq first, screenLinks_eq links]
  | .negate e | .not e => by rw [screenExpr, Expr.uses, screenExpr_eq e]
  | .attr object name => by
      simp only [screenExpr, Expr.uses, checkAll, check, screenExpr_eq object]
  | .call callee args => by
      rw [screenExpr, screenExpr_eq callee, screenExprs_eq args]
      cases callee with
      | var name => simp only [Expr.uses, checkAll, check, bind_assoc, ok_bind]
      | attr object name =>
          simp only [Expr.uses, checkAll, check, checkAll_append, bind_assoc]
      | _ => simp only [Expr.uses, checkAll_append, checkAll, ok_bind]
  | .cond c t e => by
      rw [screenExpr, Expr.uses, checkAll_append, checkAll_append, screenExpr_eq c,
        screenExpr_eq t, screenExpr_eq e]

theorem screenExprs_eq : ∀ items : List Expr,
    guard.screenExprs items = guard.checkAll (Expr.usesOfList items)
  | [] => rfl
  | e :: rest => by
      rw [screenExprs, Expr.usesOfList, checkAll_append, screenExpr_eq e, screenExprs_eq rest]

theorem screenLinks_eq : ∀ links : List (CompareOp × Expr),
    guard.screenLinks links = guard.checkAll (Expr.usesOfLinks links)
  | [] => rfl
  | (_, e) :: rest => by
      rw [screenLinks, Expr.usesOfLinks, checkAll_append, screenExpr_eq e, screenLinks_eq rest]

end

theorem screenOption_eq (e : Option Expr) :
    guard.screenOption e = guard.checkAll (Expr.usesOfOption e) := by
  cases e with
  | none => rfl
  | some e => exact guard.screenExpr_eq e

mutual

theorem screenStatement_eq : ∀ statement : Statement,
    guard.screenStatement statement = guard.checkAll statement.uses
  | .expr e => by rw [screenStatement, Statement.uses, screenExpr_eq]
  | .assign target value => by
      simp only [screenStatement, Statement.uses, checkAll, check, screenExpr_eq]
  | .branch branches otherwise => by
      rw [screenStatement, Statement.uses, checkAll_append, screenBranches_eq branches,
        screenBlock_eq otherwise]
  | .loop name iterable body => by
      simp only [screenStatement, Statement.uses, checkAll, check, checkAll_append,
        screenExpr_eq, screenBlock_eq body]
  | .raise kind message => by rw [screenStatement, Statement.uses, screenOption_eq]
  | .assert condition message => by
      rw [screenStatement, Statement.uses, checkAll_append, screenExpr_eq, screenOption_eq]
  | .importModule path => by rw [screenStatement, Statement.uses, checkModule_eq]
  | .pass => rfl

theorem screenBlock_eq : ∀ block : List Statement,
    guard.screenBlock block = guard.checkAll (Statement.usesOfBlock block)
  | [] => rfl
  | statement :: rest => by
      rw [screenBlock, Statement.usesOfBlock, checkAll_append, screenStatement_eq statement,
        screenBlock_eq rest]

theorem screenBranches_eq : ∀ branches : List (Expr × List Statement),
    guard.screenBranches branches = guard.checkAll (Statement.usesOfBranches branches)
  | [] => rfl
  | (condition, body) :: rest => by
      rw [screenBranches, Statement.usesOfBranches, checkAll_append, checkAll_append,
        screenExpr_eq, screenBlock_eq body, screenBranches_eq rest]

end

theorem permits_of_not_enabled (hguard : guard.enabled = false) (uses : List Use) :
    guard.Permits uses := by
  intro use _
  cases use <;> simp [check, checkName, checkAttribute, hides, hguard]

/-- The screen refuses the first use in a program that the guard refuses. -/
theorem screenProgram_eq (program : Program) :
    guard.screenProgram program = guard.checkAll program.uses := by
  unfold screenProgram
  split
  · exact guard.screenBlock_eq program
  next hguard =>
    have hpermits := guard.permits_of_not_enabled (by simpa using hguard) program.uses
    exact ((guard.checkAll_eq_ok_iff _).mpr hpermits).symm

theorem screenProgram_eq_ok_iff (program : Program) :
    guard.screenProgram program = .ok () ↔ guard.Permits program.uses := by
  rw [screenProgram_eq, checkAll_eq_ok_iff]

end Guard

end SchemaGuard
