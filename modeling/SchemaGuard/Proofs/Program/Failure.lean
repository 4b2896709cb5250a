import SchemaGuard.Eval.Run
import SchemaGuard.Proofs.Outcome

/-! # How operations fail

Reading, comparing and computing with values, and calling a function, fail for reasons that
lie in the values. They never fail because a capability is refused or because an evaluation
is nested too deeply: these two reasons belong to the evaluation itself.
-/

namespace SchemaGuard

open Outcome

/-- A failure that is neither a refused capability nor too great a depth. -/
def EvalError.Ordinary : EvalError → Prop
  | .forbidden _ | .tooDeep _ => False
  | _ => True

/-- A failure that is not a refused capability. -/
def EvalError.Unrefused (error : EvalError) : Prop :=
  error.isForbidden = false

theorem EvalError.Ordinary.unrefused {error : EvalError} (hordinary : error.Ordinary) :
    error.Unrefused := by
  cases error with
  | forbidden capability => exact hordinary.elim
  | _ => rfl

theorem EvalError.unrefused_iff {error : EvalError} :
    error.Unrefused ↔ ∀ capability, error ≠ .forbidden capability := by
  cases error with
  | forbidden capability => simp [Unrefused, isForbidden, capability?]
  | _ => simp [Unrefused, isForbidden, capability?]

namespace Eval

/-- An outcome whose failures are ordinary. -/
abbrev Ordinary {α : Type} (outcome : Except EvalError α) : Prop :=
  FailsOnly EvalError.Ordinary outcome

/-- An outcome whose failures are no refused capabilities. -/
abbrev Unrefused {α : Type} (outcome : Except EvalError α) : Prop :=
  FailsOnly EvalError.Unrefused outcome

theorem Ordinary.unrefused {α : Type} {outcome : Except EvalError α}
    (hordinary : Ordinary outcome) : Unrefused outcome :=
  FailsOnly.mono hordinary (fun _ => EvalError.Ordinary.unrefused)

/-! ## Numbers -/

theorem ofInt_ordinary (i : Int) : Ordinary (ofInt i) := by
  unfold ofInt
  split <;> simp [EvalError.Ordinary]

theorem ofReal_ordinary (x : Option Binary64) : Ordinary (ofReal x) := by
  cases x <;> simp [ofReal, EvalError.Ordinary]

theorem intModulo_ordinary (a b : Int) : Ordinary (intModulo a b) := by
  unfold intModulo
  split
  · exact ofInt_ordinary _
  · simp [EvalError.Ordinary]

theorem numArithmetic_ordinary (op : BinaryOp) (left right : Num) :
    Ordinary (numArithmetic op left right) := by
  have hint (a b : Int) : Ordinary (intArithmetic op a b) := by
    unfold intArithmetic
    cases op with
    | modulo => exact intModulo_ordinary a b
    | divide => exact ofReal_ordinary _
    | _ => exact ofInt_ordinary _
  have hreal (a b : Binary64) : Ordinary (realArithmetic op a b) := by
    unfold realArithmetic
    split <;> exact ofReal_ordinary _
  unfold numArithmetic
  split
  · simp [EvalError.Ordinary]
  · split
    · exact hint _ _
    · exact hreal _ _

theorem negate_ordinary (value : Value) : Ordinary (negate value) := by
  unfold negate
  split
  · exact ofInt_ordinary _
  · simp
  · simp [EvalError.Ordinary]

/-! ## Sequences -/

theorem repeatList_ordinary {α : Type} (items : List α) (count : Int) (max : Nat) :
    Ordinary (repeatList items count max) := by
  unfold repeatList
  simp only
  split <;> simp [EvalError.Ordinary]

theorem repetition?_ordinary {max : Nat} {left right : Value} {result : Except EvalError Value}
    (hresult : repetition? max left right = some result) : Ordinary result := by
  unfold repetition? at hresult
  split at hresult
  all_goals simp only [Option.ite_none_right_eq_some, Option.some.injEq, reduceCtorEq] at hresult
  all_goals
    obtain ⟨_, rfl⟩ := hresult
    exact (repeatList_ordinary _ _ _).map

theorem arithmetic_ordinary (op : BinaryOp) (left right : Value) (max : Nat) :
    Ordinary (arithmetic op left right max) := by
  unfold arithmetic
  split
  next result hresult =>
    unfold sequenceArithmetic? at hresult
    split at hresult
    · cases hresult; simp
    · cases hresult; simp
    · exact repetition?_ordinary hresult
    · cases hresult
  next =>
    split
    · exact numArithmetic_ordinary _ _ _
    · simp [EvalError.Ordinary]

/-! ## Comparisons -/

theorem ordered_ordinary (op : CompareOp) (accept : Ordering → Bool) (left right : Value) :
    Ordinary (ordered op accept left right) := by
  unfold ordered
  split <;> simp [EvalError.Ordinary]

theorem membership_ordinary (left right : Value) : Ordinary (membership left right) := by
  unfold membership
  split <;> simp [EvalError.Ordinary]

theorem compare_ordinary (op : CompareOp) (left right : Value) :
    Ordinary (compare op left right) := by
  cases op with
  | equal | notEqual | isSame | isNotSame => simp [compare]
  | less | greater | lessOrEqual | greaterOrEqual => exact ordered_ordinary _ _ _ _
  | isIn => exact membership_ordinary left right
  | notIn => exact (membership_ordinary left right).map

/-! ## Parts of values -/

theorem readAttribute_ordinary (receiver : Value) (name : String) :
    Ordinary (readAttribute receiver name) := by
  unfold readAttribute
  split
  · split <;> simp [EvalError.Ordinary]
  · simp [EvalError.Ordinary]

theorem elementAt_ordinary {α : Type} (items : List α) (index : Int) :
    Ordinary (elementAt items index) := by
  unfold elementAt
  simp only
  generalize (if index < 0 then items.length + index else index) = position
  split
  · simp [EvalError.Ordinary]
  · split <;> simp [EvalError.Ordinary]

theorem readIndex_ordinary (receiver position : Value) :
    Ordinary (readIndex receiver position) := by
  unfold readIndex
  split
  · split
    · exact elementAt_ordinary _ _
    · simp [EvalError.Ordinary]
  · split
    · exact (elementAt_ordinary _ _).map
    · simp [EvalError.Ordinary]
  · split <;> simp [EvalError.Ordinary]
  · simp [EvalError.Ordinary]

/-! ## Calls -/

theorem callFunction_ordinary (ev : Evaluator) (name : String) (args : List Value) :
    Ordinary (callFunction ev name args) := by
  unfold callFunction
  split <;> simp [EvalError.Ordinary]

end Eval

end SchemaGuard
