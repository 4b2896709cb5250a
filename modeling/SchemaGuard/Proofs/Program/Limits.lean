import SchemaGuard.Engine
import SchemaGuard.Function.Registry
import SchemaGuard.Proofs.Source.Limits
import Mathlib

/-! # Running under wider limits

Sources are read and programs are run under limits on their length, their depth and their
steps. Every test of a limit either lets the computation go on as it would without the
limit, or ends it with a failure that speaks of the limit. So wider limits change no other
outcome.
-/

namespace SchemaGuard

open Outcome Eval

/-- Limits are ordered limit by limit. -/
instance : LE Limits where
  le limits wider := limits.maxIterations ≤ wider.maxIterations ∧
    limits.maxCallDepth ≤ wider.maxCallDepth ∧ limits.maxSourceLength ≤ wider.maxSourceLength

instance (limits wider : Limits) : Decidable (limits ≤ wider) :=
  inferInstanceAs (Decidable (_ ∧ _ ∧ _))

/-- The evaluator under other limits. -/
def Evaluator.withLimits (ev : Evaluator) (limits : Limits) : Evaluator :=
  { ev with limits }

/-- A failure that speaks of a limit. -/
def EvalError.OfLimits : EvalError → Prop
  | .tooManySteps _ | .tooDeep _ => True
  | _ => False

namespace Eval

/-! ## Operations -/

theorem repeatList_persists {α : Type} {max max' : Nat} (hmax : max ≤ max') (items : List α)
    (count : Int) :
    Persists EvalError.OfLimits (repeatList items count max) (repeatList items count max') := by
  unfold repeatList
  dsimp only
  split
  next => exact Persists.error trivial _
  next hfits =>
    rw [if_neg (by omega)]
    exact Persists.refl _

theorem repetition?_persists {max max' : Nat} (hmax : max ≤ max') (left right : Value) :
    Option.Rel (Persists EvalError.OfLimits) (repetition? max left right)
      (repetition? max' left right) := by
  have htext (s : String) (n : Int) :
      Persists EvalError.OfLimits (repeatText s n max) (repeatText s n max') :=
    (repeatList_persists hmax s.toList n).map _
  have hlist (items : List Value) (n : Int) :
      Persists EvalError.OfLimits ((repeatList items n max).map Value.list)
        ((repeatList items n max').map Value.list) :=
    (repeatList_persists hmax items n).map _
  unfold repetition?
  split
  case h_5 => exact .none
  all_goals
    split
    · first
        | exact .some (htext _ _)
        | exact .some (hlist _ _)
    · exact .none

theorem arithmetic_persists {max max' : Nat} (hmax : max ≤ max') (op : BinaryOp)
    (left right : Value) :
    Persists EvalError.OfLimits (arithmetic op left right max)
      (arithmetic op left right max') := by
  have hsequence : Option.Rel (Persists EvalError.OfLimits)
      (sequenceArithmetic? max op left right) (sequenceArithmetic? max' op left right) := by
    unfold sequenceArithmetic?
    split
    · exact .some (Persists.refl _)
    · exact .some (Persists.refl _)
    · exact repetition?_persists hmax _ _
    · exact .none
  unfold arithmetic
  generalize sequenceArithmetic? max op left right = result,
    sequenceArithmetic? max' op left right = result' at hsequence ⊢
  cases hsequence with
  | some hresult => exact hresult
  | none => exact Persists.refl _

theorem tick_persists {limits wider : Limits} (hlimits : limits ≤ wider) (state : State) :
    Persists EvalError.OfLimits (tick limits state) (tick wider state) := by
  obtain ⟨hsteps, _, _⟩ := hlimits
  unfold tick
  split
  next hle =>
    rw [if_pos (Nat.le_trans hle hsteps)]
    exact Persists.refl _
  next => exact Persists.error trivial _

/-! ## Expressions -/

/-- A failure for some limits is of a kind, and what is computed under them is computed alike under
others unless it fails so. -/
structure Widens (kind : EvalError → Prop) (limits wider : Limits) : Prop where
  arithmetic : ∀ op left right, Persists kind (arithmetic op left right limits.maxIterations)
    (arithmetic op left right wider.maxIterations)
  tooDeep : kind (.tooDeep limits.maxCallDepth)

/-- A depth leaves no more room under some limits than another depth leaves under others. -/
def Roomier (limits wider : Limits) (depth depth' : Nat) : Prop :=
  limits.maxCallDepth + depth' ≤ wider.maxCallDepth + depth

theorem Roomier.succ {limits wider : Limits} {depth depth' : Nat}
    (hroom : Roomier limits wider depth depth') :
    Roomier limits wider (depth + 1) (depth' + 1) := by
  unfold Roomier at hroom ⊢
  omega

/-- What follows a step down runs one level deeper on both sides. -/
theorem Widens.enter {kind : EvalError → Prop} {limits wider : Limits} {depth depth' : Nat}
    (hwidens : Widens kind limits wider) (hroom : Roomier limits wider depth depth') {α : Type}
    {next next' : Nat → Except EvalError α}
    (hnext : Persists kind (next (depth + 1)) (next' (depth' + 1))) :
    Persists kind (enter limits depth >>= next) (enter wider depth' >>= next') := by
  unfold Roomier at hroom
  unfold Eval.enter
  split
  next hle =>
    rw [if_pos (by omega)]
    exact hnext
  next => exact Persists.error hwidens.tooDeep _

section

variable {ev : Evaluator} {wider : Limits} {kind : EvalError → Prop}

theorem followPath_withLimits (ev : Evaluator) (limits : Limits) (value : Value)
    (names : List String) : followPath (ev.withLimits limits) value names =
      followPath ev value names := by
  induction names generalizing value with
  | nil => rfl
  | cons name rest ih => exact bind_congr rfl fun _ _ => bind_congr rfl fun inner _ => ih inner

theorem resolvePath_withLimits (ev : Evaluator) (limits : Limits) (scope : Scope)
    (parts : List String) : resolvePath (ev.withLimits limits) scope parts =
      resolvePath ev scope parts := by
  cases parts with
  | nil => rfl
  | cons root rest =>
      exact bind_congr rfl fun value _ => followPath_withLimits ev limits value rest

mutual

/-- An evaluation comes to the same where there is more room for it, unless it fails for the
limits. -/
theorem evaluate_persists (hwidens : Widens kind ev.limits wider) (scope : Scope) :
    ∀ (e : Expr) (kindExpected : Bool) {depth depth' : Nat},
      Roomier ev.limits wider depth depth' →
      Persists kind (evaluate ev scope kindExpected depth e)
        (evaluate (ev.withLimits wider) scope kindExpected depth' e)
  | .null, _, _, _, hroom | .bool _, _, _, _, hroom | .int _, _, _, _, hroom
  | .float _, _, _, _, hroom | .str _, _, _, _, hroom => by
      rw [evaluate, evaluate]
      exact hwidens.enter hroom (Persists.refl _)
  | .list items, kindExpected, _, _, hroom => by
      rw [evaluate, evaluate]
      split
      · exact (evaluateList_persists hwidens scope items true hroom).map _
      · refine hwidens.enter hroom ?_
        exact (evaluateList_persists hwidens scope items false hroom.succ).bind fun _ =>
          Persists.refl _
  | .var name, kindExpected, _, _, hroom => by
      rw [evaluate, evaluate]
      split
      · exact Persists.refl _
      · exact hwidens.enter hroom (Persists.refl _)
  | .path parts, _, _, _, hroom => by
      rw [evaluate, evaluate]
      refine hwidens.enter hroom ?_
      rw [resolvePath_withLimits]
      exact Persists.refl _
  | .binary op left right, _, _, _, hroom => by
      rw [evaluate, evaluate]
      refine hwidens.enter hroom ?_
      refine (evaluate_persists hwidens scope left false hroom.succ).bind fun l => ?_
      refine (evaluate_persists hwidens scope right false hroom.succ).bind fun r => ?_
      exact hwidens.arithmetic op l r
  | .compare first links, _, _, _, hroom => by
      rw [evaluate, evaluate]
      refine hwidens.enter hroom ?_
      exact (evaluate_persists hwidens scope first false hroom.succ).bind fun left =>
        evaluateLinks_persists hwidens scope links hroom.succ left
  | .negate operand, _, _, _, hroom | .not operand, _, _, _, hroom => by
      rw [evaluate, evaluate]
      refine hwidens.enter hroom ?_
      exact (evaluate_persists hwidens scope operand false hroom.succ).bind fun _ =>
        Persists.refl _
  | .and left right, _, _, _, hroom => by
      rw [evaluate, evaluate]
      refine hwidens.enter hroom ?_
      refine (evaluate_persists hwidens scope left false hroom.succ).bind fun l => ?_
      split
      · exact evaluate_persists hwidens scope right false hroom.succ
      · exact Persists.refl _
  | .or left right, _, _, _, hroom => by
      rw [evaluate, evaluate]
      refine hwidens.enter hroom ?_
      refine (evaluate_persists hwidens scope left false hroom.succ).bind fun l => ?_
      split
      · exact Persists.refl _
      · exact evaluate_persists hwidens scope right false hroom.succ
  | .attr object name, _, _, _, hroom => by
      rw [evaluate, evaluate]
      refine hwidens.enter hroom ?_
      refine (Persists.refl _).bind fun _ => ?_
      exact (evaluate_persists hwidens scope object false hroom.succ).bind fun _ =>
        Persists.refl _
  | .index object position, _, _, _, hroom => by
      rw [evaluate, evaluate]
      refine hwidens.enter hroom ?_
      refine (evaluate_persists hwidens scope object false hroom.succ).bind fun receiver => ?_
      exact (evaluate_persists hwidens scope position false hroom.succ).bind fun _ =>
        Persists.refl _
  | .call callee args, _, _, _, hroom => by
      have hargs := evaluateArgs_persists hwidens scope args hroom.succ
      have hcallee := evaluate_persists hwidens scope callee false hroom.succ
      cases callee with
      | var name =>
          rw [evaluate, evaluate]
          refine hwidens.enter hroom ?_
          refine (Persists.refl _).bind fun _ => ?_
          show Persists _ (ite (ev.functions.has name = true) _ _)
            (ite (ev.functions.has name = true) _ _)
          split
          · exact (hargs name 0).bind fun _ => Persists.refl _
          · exact Persists.refl _
      | attr object name =>
          have hobject := evaluate_persists hwidens scope object false hroom.succ
          rw [evaluate, evaluate]
          refine hwidens.enter hroom ?_
          refine (Persists.refl _).bind fun _ => ?_
          refine hobject.bind fun receiver => ?_
          show Persists _ (ite (ev.functions.has name = true) _ _)
            (ite (ev.functions.has name = true) _ _)
          split
          · exact (hargs name 0).bind fun _ => Persists.refl _
          · exact Persists.refl _
      | _ =>
          rw [evaluate, evaluate]
          · refine hwidens.enter hroom ?_
            exact hcallee.bind fun _ => Persists.refl _
          all_goals
            intros
            contradiction
  | .cond condition whenTrue whenFalse, _, _, _, hroom => by
      rw [evaluate, evaluate]
      refine hwidens.enter hroom ?_
      refine (evaluate_persists hwidens scope condition false hroom.succ).bind fun value => ?_
      split
      · exact evaluate_persists hwidens scope whenTrue false hroom.succ
      · exact evaluate_persists hwidens scope whenFalse false hroom.succ

theorem evaluateList_persists (hwidens : Widens kind ev.limits wider) (scope : Scope) :
    ∀ (items : List Expr) (kindExpected : Bool) {depth depth' : Nat},
      Roomier ev.limits wider depth depth' →
      Persists kind (evaluateList ev scope kindExpected depth items)
        (evaluateList (ev.withLimits wider) scope kindExpected depth' items)
  | [], _, _, _, _ => by
      rw [evaluateList, evaluateList]
      exact Persists.refl _
  | e :: rest, kindExpected, _, _, hroom => by
      rw [evaluateList, evaluateList]
      refine (evaluate_persists hwidens scope e kindExpected hroom).bind fun value => ?_
      exact (evaluateList_persists hwidens scope rest kindExpected hroom).bind fun _ =>
        Persists.refl _

theorem evaluateArgs_persists (hwidens : Widens kind ev.limits wider) (scope : Scope) :
    ∀ (args : List Expr) {depth depth' : Nat}, Roomier ev.limits wider depth depth' →
      ∀ (function : String) (position : Nat),
      Persists kind (evaluateArgs ev scope depth function position args)
        (evaluateArgs (ev.withLimits wider) scope depth' function position args)
  | [], _, _, _, _, _ => by
      rw [evaluateArgs, evaluateArgs]
      exact Persists.refl _
  | e :: rest, _, _, hroom, function, position => by
      rw [evaluateArgs, evaluateArgs]
      refine (evaluate_persists hwidens scope e _ hroom).bind fun value => ?_
      exact (evaluateArgs_persists hwidens scope rest hroom function (position + 1)).bind
        fun _ => Persists.refl _

theorem evaluateLinks_persists (hwidens : Widens kind ev.limits wider) (scope : Scope) :
    ∀ (links : List (CompareOp × Expr)) {depth depth' : Nat},
      Roomier ev.limits wider depth depth' → ∀ left : Value,
      Persists kind (evaluateLinks ev scope depth left links)
        (evaluateLinks (ev.withLimits wider) scope depth' left links)
  | [], _, _, _, _ => by
      rw [evaluateLinks, evaluateLinks]
      exact Persists.refl _
  | (op, operand) :: rest, _, _, hroom, left => by
      rw [evaluateLinks, evaluateLinks]
      refine (evaluate_persists hwidens scope operand false hroom).bind fun right => ?_
      refine (Persists.refl _).bind fun holds => ?_
      split
      · exact evaluateLinks_persists hwidens scope rest hroom right
      · exact Persists.refl _

end

theorem widens_of_le (hlimits : ev.limits ≤ wider) :
    Widens EvalError.OfLimits ev.limits wider :=
  ⟨arithmetic_persists hlimits.1, trivial⟩

theorem evaluateIn_persists (hlimits : ev.limits ≤ wider) (state : State) (e : Expr) :
    Persists EvalError.OfLimits (evaluateIn ev state e)
      (evaluateIn (ev.withLimits wider) state e) :=
  evaluate_persists (widens_of_le hlimits) state.scope e false hlimits.2.1

/-! ## Statements -/

theorem messageText_persists (hlimits : ev.limits ≤ wider) (state : State) (fallback : String)
    (message : Option Expr) :
    Persists EvalError.OfLimits (messageText ev state fallback message)
      (messageText (ev.withLimits wider) state fallback message) := by
  cases message with
  | none => exact Persists.refl _
  | some e => exact (evaluateIn_persists hlimits state e).map _

mutual

theorem execute_persists (hlimits : ev.limits ≤ wider) :
    ∀ (statement : Statement) (state : State),
      Persists EvalError.OfLimits (execute ev state statement)
        (execute (ev.withLimits wider) state statement)
  | .pass, state => by
      rw [execute, execute]
      exact tick_persists hlimits state
  | .expr e, state => by
      rw [execute, execute]
      refine (tick_persists hlimits state).bind fun state => ?_
      exact (evaluateIn_persists hlimits state e).bind fun _ => Persists.refl _
  | .assign target value, state => by
      rw [execute, execute]
      refine (tick_persists hlimits state).bind fun state => ?_
      refine (Persists.refl _).bind fun _ => ?_
      exact (evaluateIn_persists hlimits state value).bind fun _ => Persists.refl _
  | .branch branches otherwise, state => by
      rw [execute, execute]
      refine (tick_persists hlimits state).bind fun state => ?_
      refine (executeBranches_persists hlimits branches state).bind fun taken => ?_
      cases taken with
      | some state => exact Persists.refl _
      | none => exact executeBlock_persists hlimits otherwise state
  | .loop name iterable body, state => by
      rw [execute, execute]
      refine (tick_persists hlimits state).bind fun state => ?_
      refine (Persists.refl _).bind fun _ => ?_
      refine (evaluateIn_persists hlimits state iterable).bind fun source => ?_
      split
      next items _ =>
        -- Both runs loop over the same items, so the rounds persist one by one.
        refine Persists.foldlM items (fun state item => ?_) state
        exact (tick_persists hlimits state).bind fun state =>
          executeBlock_persists hlimits body (state.bind name item)
      next => exact Persists.refl _
  | .raise kind message, state => by
      rw [execute, execute]
      refine (tick_persists hlimits state).bind fun state => ?_
      exact (messageText_persists hlimits state kind message).bind fun _ => Persists.refl _
  | .assert condition message, state => by
      rw [execute, execute]
      refine (tick_persists hlimits state).bind fun state => ?_
      refine (evaluateIn_persists hlimits state condition).bind fun value => ?_
      split
      · exact Persists.refl _
      · exact (messageText_persists hlimits state _ message).bind fun _ => Persists.refl _
  | .importModule path, state => by
      rw [execute, execute]
      exact (tick_persists hlimits state).bind fun _ => Persists.refl _

theorem executeBlock_persists (hlimits : ev.limits ≤ wider) :
    ∀ (block : List Statement) (state : State),
      Persists EvalError.OfLimits (executeBlock ev state block)
        (executeBlock (ev.withLimits wider) state block)
  | [], state => by
      rw [executeBlock, executeBlock]
      exact Persists.refl _
  | statement :: rest, state => by
      rw [executeBlock, executeBlock]
      exact (execute_persists hlimits statement state).bind fun state =>
        executeBlock_persists hlimits rest state

theorem executeBranches_persists (hlimits : ev.limits ≤ wider) :
    ∀ (branches : List (Expr × List Statement)) (state : State),
      Persists EvalError.OfLimits (executeBranches ev state branches)
        (executeBranches (ev.withLimits wider) state branches)
  | [], state => by
      rw [executeBranches, executeBranches]
      exact Persists.refl _
  | (condition, body) :: rest, state => by
      rw [executeBranches, executeBranches]
      refine (evaluateIn_persists hlimits state condition).bind fun value => ?_
      split
      · exact (executeBlock_persists hlimits body state).bind fun _ => Persists.refl _
      · exact executeBranches_persists hlimits rest state

end

end

end Eval

/-! ## Sources and programs -/

namespace Evaluator

variable {ev : Evaluator} {wider : Limits}

theorem compile_persists (hlimits : ev.limits ≤ wider) (source : String) :
    Persists ParseError.OfLimits (ev.compile source) ((ev.withLimits wider).compile source) := by
  obtain ⟨_, hdepth, hlength⟩ := hlimits
  refine (Persists.refl _).bind fun _ => ?_
  exact (Program.parse_persists hdepth hlength source).bind fun _ => Persists.refl _

theorem run_persists (hlimits : ev.limits ≤ wider) (program : Program) (scope : Scope) :
    Persists EvalError.OfLimits (ev.run program scope)
      ((ev.withLimits wider).run program scope) :=
  (executeBlock_persists hlimits program ⟨0, scope⟩).map _

/-- Raising limits changes no verdict: a source that is not refused for its depth or its length
is the same program under wider limits, or refused with the same error; and a run that does not
end for its steps or its depth ends in the same way. -/
theorem wider_limits_keep_verdicts (hlimits : ev.limits ≤ wider) :
    (∀ source, (∀ depth max, ev.compile source ≠ .error (.tooDeep depth max)) →
      (∀ length max, ev.compile source ≠ .error (.tooLong length max)) →
      (ev.withLimits wider).compile source = ev.compile source) ∧
    (∀ program scope, (∀ max, ev.run program scope ≠ .error (.tooManySteps max)) →
      (∀ max, ev.run program scope ≠ .error (.tooDeep max)) →
      (ev.withLimits wider).run program scope = ev.run program scope) := by
  constructor
  · intro source hdepth hlength
    refine (compile_persists hlimits source).eq fun error herror hkind => ?_
    cases error with
    | tooDeep depth max => exact hdepth depth max herror
    | tooLong length max => exact hlength length max herror
    | _ => exact hkind
  · intro program scope hsteps hdepth
    refine (run_persists hlimits program scope).eq fun error herror hkind => ?_
    cases error with
    | tooManySteps max => exact hsteps max herror
    | tooDeep max => exact hdepth max herror
    | _ => exact hkind

/-- An evaluator that permits little. -/
def frugal : Evaluator :=
  .withBuiltins ⟨3, 3, 16⟩ .restricted

/-- A source that it just permits, and the program's run, are what they are under the usual
limits. -/
theorem frugal_keeps_verdicts :
    frugal.limits ≤ {} ∧
      frugal.compile "total = [1] * 3" =
        .ok [.assign "total" (.binary .multiply (.list [.int 1]) (.int 3))] ∧
      (frugal.withLimits {}).compile "total = [1] * 3" =
        .ok [.assign "total" (.binary .multiply (.list [.int 1]) (.int 3))] ∧
      (frugal.withLimits {}).run
          [.assign "total" (.binary .multiply (.list [.int 1]) (.int 3))] [] =
        .ok [("total", .list [.int 1, .int 1, .int 1])] := by
  have hlimits : frugal.limits ≤ {} := by decide
  have hsource : frugal.compile "total = [1] * 3" =
      .ok [.assign "total" (.binary .multiply (.list [.int 1]) (.int 3))] := by
    cbv
  have hscope : frugal.run [.assign "total" (.binary .multiply (.list [.int 1]) (.int 3))] [] =
      .ok [("total", .list [.int 1, .int 1, .int 1])] := rfl
  obtain ⟨hcompile, hrun⟩ := wider_limits_keep_verdicts hlimits
  refine ⟨hlimits, hsource, ?_, ?_⟩
  · rw [hcompile _ (by simp [hsource]) (by simp [hsource]), hsource]
  · rw [hrun _ _ (by simp [hscope]) (by simp [hscope]), hscope]

end Evaluator

end SchemaGuard
