import SchemaGuard.Number.Binary64
import SchemaGuard.Number.Numeral
import Mathlib.Data.Rat.Floor
import Mathlib.Tactic.NormNum
import Mathlib.Tactic.Linarith

/-! # Integers, quotients and zero

An integer that is not zero stays so as a floating point number, however far it is rounded.
Floored division gives the greatest integer that is not above the quotient.
-/

namespace SchemaGuard

namespace Binary64

/-! ## Zero -/

theorem natAbs_units (x : Binary64) : x.units.natAbs = x.magnitude := by
  unfold units
  split <;> simp

theorem isZero_iff {x : Binary64} : x.isZero = true ↔ x.units = 0 := by
  have hmagnitude : x.magnitude = 0 ↔ x.significand = 0 := by
    simp [magnitude]
  rw [isZero, beq_iff_eq, ← hmagnitude, units]
  split <;> omega

theorem le_halfEven (numerator denominator : Nat) :
    numerator / denominator ≤ halfEven numerator denominator := by
  unfold halfEven
  dsimp only
  split
  · exact Nat.le_refl _
  · split
    · exact Nat.le_succ _
    · split
      · exact Nat.le_refl _
      · exact Nat.le_succ _

/-- A whole number of units keeps a digit when it is rounded. -/
theorem isZero_of_ofUnits? {units : Int} {x : Binary64} (hunits : units ≠ 0)
    (hx : ofUnits? units = some x) : x.isZero = false := by
  have hpos : units.natAbs ≠ 0 := Int.natAbs_ne_zero.mpr hunits
  let shift := Nat.log2 units.natAbs - 52
  have hdigit : 0 < halfEven units.natAbs (Nat.pow 2 shift) := by
    refine Nat.lt_of_lt_of_le ?_ (le_halfEven _ _)
    refine Nat.div_pos ?_ (Nat.two_pow_pos shift)
    calc Nat.pow 2 shift
        ≤ 2 ^ Nat.log2 units.natAbs := Nat.pow_le_pow_right (by decide) (Nat.sub_le _ _)
      _ ≤ units.natAbs := Nat.log2_self_le hpos
  have hparts : ∀ {negative : Bool} {significand shift : Nat}, 0 < significand →
      ofParts? negative significand shift = some x → x.isZero = false := by
    intro negative significand shift hsignificand hparts
    unfold ofParts? at hparts
    split at hparts
    · cases hparts
      simp only [isZero, beq_eq_false_iff_ne]
      omega
    · cases hparts
  unfold ofUnits? ofQuotient? at hx
  simp only [Nat.div_one, Nat.one_mul] at hx
  split at hx
  · exact hparts (by decide) hx
  · exact hparts hdigit hx

theorem unitsPerOne_pos : 0 < unitsPerOne := by
  unfold unitsPerOne
  -- The power itself is never computed.
  generalize 1074 = exponent
  exact Nat.two_pow_pos exponent

/-- Only zero becomes zero. -/
theorem isZero_ofInt (i : Int) : (ofInt i).isZero = (i == 0) := by
  by_cases hi : i = 0
  · have hzero : ofUnits? 0 = some (zero false) := rfl
    rw [hi, ofInt, Int.zero_mul, hzero]
    rfl
  · have hone : (unitsPerOne : Int) ≠ 0 := Int.natCast_ne_zero.mpr unitsPerOne_pos.ne'
    rw [beq_false_of_ne hi, ofInt]
    cases hunits : ofUnits? (i * unitsPerOne) with
    | none => rfl
    | some x => exact isZero_of_ofUnits? (Int.mul_ne_zero hi hone) hunits

end Binary64

/-! ## Division -/

/-- Floored division rounds the exact quotient down. -/
theorem floor_div_eq_fdiv (a b : Int) : ⌊(a : ℚ) / b⌋ = a.fdiv b := by
  have hpositive : ∀ (a : Int) (n : Nat), ⌊(a : ℚ) / (n : Int)⌋ = a.fdiv n := by
    intro a n
    rw [Int.fdiv_eq_ediv_of_nonneg a (Int.natCast_nonneg n), Int.cast_natCast]
    exact Rat.floor_intCast_div_natCast a n
  obtain ⟨n, rfl | rfl⟩ := b.eq_nat_or_neg
  · exact hpositive a n
  · rw [← Int.neg_fdiv_neg, Int.neg_neg, ← hpositive, Int.cast_neg, Int.cast_neg, div_neg,
      neg_div]

/-- What a floored quotient leaves lies between zero and the divisor. -/
theorem fmod_between {a b : Int} (hb : b ≠ 0) :
    0 ≤ a.fmod b ∧ a.fmod b < b ∨ b < a.fmod b ∧ a.fmod b ≤ 0 := by
  rcases Int.lt_or_gt_of_ne hb with hneg | hpos
  · right
    have hflip := Int.neg_fmod_neg a b
    have hlow := Int.fmod_nonneg_of_pos (-a) (Int.neg_pos_of_neg hneg)
    have hhigh := Int.fmod_lt_of_pos (-a) (Int.neg_pos_of_neg hneg)
    omega
  · exact .inl ⟨Int.fmod_nonneg_of_pos a hpos, Int.fmod_lt_of_pos a hpos⟩

namespace Int64Range

theorem holds_iff {i : Int} :
    holds i = true ↔ -0x8000000000000000 ≤ i ∧ i < 0x8000000000000000 := by
  simp [holds]

theorem holds_of_check? {i j : Int} (hcheck : check? i = some j) : holds i = true := by
  unfold check? at hcheck
  split at hcheck
  next hholds => exact hholds
  next => cases hcheck

/-- A truncated quotient of two integers of 64 bits needs more of them in a single case. -/
theorem holds_tdiv {a b : Int} (ha : holds a = true) :
    holds (a.tdiv b) = true ↔ ¬ (a = -0x8000000000000000 ∧ b = -1) := by
  rw [holds_iff] at ha ⊢
  have habs := Int.natAbs_tdiv a b
  rcases Nat.lt_or_ge b.natAbs 2 with hsmall | hlarge
  · obtain rfl | rfl | rfl : b = 0 ∨ b = 1 ∨ b = -1 := by omega
    · simp only [Int.tdiv_zero]
      omega
    · simp only [Int.tdiv_one]
      omega
    · rw [Int.tdiv_neg, Int.tdiv_one]
      omega
  · have hhalf : (a.tdiv b).natAbs ≤ a.natAbs / 2 := by
      rw [habs]
      exact Nat.div_le_div_left hlarge (by decide)
    omega

end Int64Range

end SchemaGuard
