import SchemaGuard.Engine
import SchemaGuard.Proofs.Number
import SchemaGuard.Proofs.Outcome

/-! # Arithmetic on integers

Operations on two integers of 64 bits give the exact result or fail. They fail where the
divisor is zero and where the result needs more bits. One remainder is refused besides,
that of the least integer by minus one: it is zero, but the quotient that goes with it is
out of range.
-/

namespace SchemaGuard.Eval

open Outcome

/-- The exact results of operations on integers. A quotient is rounded down, and the remainder is
what the rounded quotient leaves. -/
inductive Exact (a b : Int) : BinaryOp → Int → Prop
  | add : Exact a b .add (a + b)
  | subtract : Exact a b .subtract (a - b)
  | multiply : Exact a b .multiply (a * b)
  | floorDivide (hb : b ≠ 0) : Exact a b .floorDivide ⌊(a : ℚ) / b⌋
  | modulo (hb : b ≠ 0) : Exact a b .modulo (a - b * ⌊(a : ℚ) / b⌋)

/-- The remainder of the least integer by minus one. -/
def LosesRemainder (op : BinaryOp) (a b : Int) : Prop :=
  op = .modulo ∧ a = -0x8000000000000000 ∧ b = -1

variable {op : BinaryOp} {a b result : Int}

/-! ## Exact results -/

theorem Exact.divisor_ne_zero (hexact : Exact a b op result) (hop : divides op = true) :
    b ≠ 0 := by
  cases hexact with
  | floorDivide hb => exact hb
  | modulo hb => exact hb
  | _ => cases hop

/-- Quotient and remainder make up the dividend, and the remainder has the sign of the divisor. -/
theorem exact_division (hb : b ≠ 0) : ∃ quotient remainder, Exact a b .floorDivide quotient ∧
    Exact a b .modulo remainder ∧ a = b * quotient + remainder ∧
    (0 ≤ remainder ∧ remainder < b ∨ b < remainder ∧ remainder ≤ 0) := by
  refine ⟨_, _, .floorDivide hb, .modulo hb, ?_, ?_⟩
  · omega
  · rw [floor_div_eq_fdiv, ← Int.fmod_def]
    exact fmod_between hb

/-! ## Results of operations -/

/-- A remainder fits whenever the divisor does, but it is refused with a quotient that does not. -/
theorem intModulo_eq_ofInt (ha : Int64Range.holds a = true)
    (hkeeps : ¬ LosesRemainder .modulo a b) : intModulo a b = ofInt (a.fmod b) := by
  have hquotient : Int64Range.holds (a.tdiv b) = true := by
    rw [Int64Range.holds_tdiv ha]
    intro hlost
    exact hkeeps ⟨rfl, hlost⟩
  rw [intModulo, if_pos hquotient]

theorem intArithmetic_eq_ofInt (ha : Int64Range.holds a = true) (hexact : Exact a b op result)
    (hkeeps : ¬ LosesRemainder op a b) : intArithmetic op a b = ofInt result := by
  cases hexact with
  | add => rfl
  | subtract => rfl
  | multiply => rfl
  | floorDivide hb =>
      rw [floor_div_eq_fdiv]
      rfl
  | modulo hb =>
      rw [floor_div_eq_fdiv, ← Int.fmod_def]
      exact intModulo_eq_ofInt ha hkeeps

theorem intArithmetic_of_lost (hlost : LosesRemainder op a b) :
    intArithmetic op a b = .error .overflow := by
  obtain ⟨rfl, rfl, rfl⟩ := hlost
  rfl

theorem ofInt_eq_ok {i j : Int} :
    ofInt i = .ok (.int j) ↔ Int64Range.holds i = true ∧ i = j := by
  unfold ofInt
  split
  next hholds => simp [hholds]
  next hholds => simp [hholds]

theorem ofInt_eq_overflow {i : Int} :
    ofInt i = .error .overflow ↔ Int64Range.holds i = false := by
  unfold ofInt
  split
  next hholds => simp [hholds]
  next hholds => simp [hholds]

/-- Integers whose operation does not divide by zero are operands of integer arithmetic. -/
theorem arithmetic_int (ha : Int64Range.holds a = true) (hb : Int64Range.holds b = true)
    (hdivisor : divides op = true → b ≠ 0) (max : Nat) :
    arithmetic op (.int a) (.int b) max = intArithmetic op a b := by
  have hsequence : sequenceArithmetic? max op (.int a) (.int b) = none := by
    cases op <;> rfl
  have hzero : (divides op && (Num.int b).toReal.isZero) = false := by
    rw [Num.toReal, Binary64.isZero_ofInt]
    cases hop : divides op with
    | false => rfl
    | true => simp [hdivisor hop]
  rw [arithmetic, hsequence]
  simp [Num.of?, ha, hb, numArithmetic, hzero]

theorem arithmetic_by_zero (ha : Int64Range.holds a = true) (hop : divides op = true)
    (max : Nat) : arithmetic op (.int a) (.int 0) max = .error .divisionByZero := by
  have hsequence : sequenceArithmetic? max op (.int a) (.int 0) = none := by
    cases op <;> rfl
  have hholds : Int64Range.holds 0 = true := rfl
  have hzero : (Num.int 0).toReal.isZero = true := Binary64.isZero_ofInt 0
  rw [arithmetic, hsequence]
  simp [Num.of?, ha, hholds, numArithmetic, hop, hzero]

theorem evaluate_binary {ev : Evaluator} {scope : Scope} {depth : Nat} {left right : Expr}
    {l r : Value} (hdepth : depth + 1 ≤ ev.limits.maxCallDepth)
    (hleft : evaluate ev scope false (depth + 1) left = .ok l)
    (hright : evaluate ev scope false (depth + 1) right = .ok r) (kindExpected : Bool) :
    evaluate ev scope kindExpected depth (.binary op left right) =
      arithmetic op l r ev.limits.maxIterations := by
  rw [evaluate, enter, if_pos hdepth, ok_bind, hleft, ok_bind, hright, ok_bind]

/-! ## Expressions -/

/-- Integer arithmetic is exact or an error. An operation on two integers of 64 bits comes to its
exact result if that fits, and overflows if it does not; floored division and its remainder fail for
the divisor zero. The remainder of the least integer by minus one alone overflows although it is
zero. -/
theorem integer_arithmetic_exact {ev : Evaluator} {scope : Scope} {kindExpected : Bool}
    {depth : Nat} {left right : Expr} (hdepth : depth + 1 ≤ ev.limits.maxCallDepth)
    (hleft : evaluate ev scope false (depth + 1) left = .ok (.int a))
    (hright : evaluate ev scope false (depth + 1) right = .ok (.int b))
    (ha : Int64Range.holds a = true) (hb : Int64Range.holds b = true) :
    let outcome := evaluate ev scope kindExpected depth (.binary op left right)
    (∀ result, Exact a b op result →
      (outcome = .ok (.int result) ↔
        Int64Range.holds result = true ∧ ¬ LosesRemainder op a b) ∧
      (outcome = .error .overflow ↔
        Int64Range.holds result = false ∨ LosesRemainder op a b)) ∧
    (op = .floorDivide ∨ op = .modulo →
      (b = 0 → outcome = .error .divisionByZero) ∧
      (b ≠ 0 → ∃ quotient remainder, Exact a b .floorDivide quotient ∧
        Exact a b .modulo remainder ∧ a = b * quotient + remainder ∧
        (0 ≤ remainder ∧ remainder < b ∨ b < remainder ∧ remainder ≤ 0))) := by
  intro outcome
  have houtcome : outcome = arithmetic op (.int a) (.int b) ev.limits.maxIterations :=
    evaluate_binary hdepth hleft hright kindExpected
  rw [houtcome]
  refine ⟨fun result hexact => ?_, fun hop => ⟨?_, exact_division⟩⟩
  · rw [arithmetic_int ha hb hexact.divisor_ne_zero]
    by_cases hlost : LosesRemainder op a b
    · rw [intArithmetic_of_lost hlost]
      simp [hlost]
    · rw [intArithmetic_eq_ofInt ha hexact hlost, ofInt_eq_ok, ofInt_eq_overflow]
      simp [hlost]
  · rintro rfl
    apply arithmetic_by_zero ha
    rcases hop with rfl | rfl <;> rfl

/-- The least integer leaves nothing when it is divided by minus one, and that is refused. -/
theorem least_modulo_minus_one :
    let ev := Evaluator.withBuiltins {} .restricted
    let scope : Scope := [("a", .int (-0x8000000000000000)), ("b", .int (-1))]
    Exact (-0x8000000000000000) (-1) .modulo 0 ∧
      evaluate ev scope false 0 (.binary .modulo (.var "a") (.var "b")) = .error .overflow := by
  intro ev scope
  have hleft : evaluate ev scope false 1 (.var "a") = .ok (.int (-0x8000000000000000)) := rfl
  have hright : evaluate ev scope false 1 (.var "b") = .ok (.int (-1)) := rfl
  have hexact : Exact (-0x8000000000000000) (-1) .modulo 0 := by
    have hmodulo := Exact.modulo (a := -0x8000000000000000) (b := -1) (by decide)
    rwa [floor_div_eq_fdiv] at hmodulo
  obtain ⟨houtcome, _⟩ := @integer_arithmetic_exact .modulo _ _ ev scope false 0 (.var "a")
    (.var "b") (by decide) hleft hright (by decide) (by decide)
  exact ⟨hexact, (houtcome 0 hexact).2.mpr (.inr ⟨rfl, rfl, rfl⟩)⟩

end SchemaGuard.Eval
