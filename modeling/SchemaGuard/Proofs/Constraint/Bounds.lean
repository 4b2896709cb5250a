import SchemaGuard.Proofs.Coercion
import SchemaGuard.Proofs.Constraint
import SchemaGuard.Proofs.Equality
import SchemaGuard.Proofs.Rounding

/-! # Bounds on integers

The value of an integer field has 64 bits with a sign, and its bound may be a larger integer. Two
integers of 64 bits are compared and divided as they are. A larger bound is compared as a floating
point number: this blurs the bounds just above the range, and a multiple of such a bound is any
integer whose quotient is within a billionth of a whole number.
-/

namespace SchemaGuard

/-! ## Comparisons -/

namespace Value

theorem int64?_int_eq_none {i : Int} (hi : Int64Range.holds i = false) :
    (int i).int64? = none := by
  rw [int64?, Int64Range.check?, hi, if_neg Bool.false_ne_true]

variable {v bound : Int}

theorem order?_int (hv : Int64Range.holds v = true) (hbound : Int64Range.holds bound = true) :
    (int v).order? (int bound) = some (compare v bound) := by
  rw [order?, numberOrder?, int64?_int hv, int64?_int hbound]

/-- A bound beyond 64 bits is compared as a floating point number. -/
theorem order?_int_beyond (hbound : Int64Range.holds bound = false) :
    (int v).order? (int bound) =
      some (compare (Binary64.ofInt v).units (Binary64.ofInt bound).units) := by
  rw [order?, numberOrder?, int64?_int_eq_none hbound]
  cases (int v).int64? <;> rfl

end Value

namespace Constraint

/-- An integer just below the end of the 64-bit range and a bound just above it, which are the same
floating point number. -/
def RoundTogether (bound v : Int) : Prop :=
  2 ^ 63 - 512 ≤ v ∧ 2 ^ 63 ≤ bound ∧ bound ≤ 2 ^ 63 + 1024

instance (bound v : Int) : Decidable (RoundTogether bound v) :=
  inferInstanceAs (Decidable (_ ∧ _ ∧ _))

variable {v bound : Int}

open Binary64 in
/-- An integer of 64 bits stays below a larger bound unless both are rounded to the end of the
range. -/
theorem units_lt_iff (hv : v < 2 ^ 63) (hbound : 2 ^ 63 ≤ bound) :
    (ofInt v).units < (ofInt bound).units ↔ ¬ RoundTogether bound v := by
  have hbelow : (ofInt (2 ^ 63 - 512)).units = (ofInt (2 ^ 63)).units := by decide +kernel
  have hlower : (ofInt (2 ^ 63 - 513)).units < (ofInt (2 ^ 63)).units := by decide +kernel
  have habove : (ofInt (2 ^ 63 + 1024)).units = (ofInt (2 ^ 63)).units := by decide +kernel
  have hupper : (ofInt (2 ^ 63)).units < (ofInt (2 ^ 63 + 1025)).units := by decide +kernel
  have hvmax := units_ofInt_mono (Int.le_of_lt hv)
  have hboundmin := units_ofInt_mono hbound
  unfold RoundTogether
  by_cases hnear : 2 ^ 63 - 512 ≤ v
  · have hvmin := units_ofInt_mono hnear
    by_cases hclose : bound ≤ 2 ^ 63 + 1024
    · have hboundmax := units_ofInt_mono hclose
      omega
    · have hfar := units_ofInt_mono (show 2 ^ 63 + 1025 ≤ bound by omega)
      omega
  · have hfar := units_ofInt_mono (show v ≤ 2 ^ 63 - 513 by omega)
    omega

theorem not_holds_iff (hlow : -2 ^ 63 ≤ bound) :
    Int64Range.holds bound = false ↔ 2 ^ 63 ≤ bound := by
  rw [← Bool.not_eq_true, Int64Range.holds_iff]
  omega

theorem order?_of_roundTogether (hv : Int64Range.holds v = true)
    (htogether : RoundTogether bound v) : (Value.int v).order? (.int bound) = some .eq := by
  have hbound := htogether.2.1
  have hlt := units_lt_iff (Int64Range.holds_iff.mp hv).2 hbound
  have hle := Binary64.units_ofInt_mono (show v ≤ bound from
    Int.le_trans (Int.le_of_lt (Int64Range.holds_iff.mp hv).2) hbound)
  rw [Value.order?_int_beyond ((not_holds_iff (by omega)).mpr hbound)]
  congr 1
  rw [compare_eq_iff_eq]
  by_contra hne
  exact hlt.mp (by omega) htogether

theorem order?_of_not_roundTogether (hv : Int64Range.holds v = true) (hlow : -2 ^ 63 ≤ bound)
    (happart : ¬ RoundTogether bound v) :
    (Value.int v).order? (.int bound) = some (compare v bound) := by
  cases hbound : Int64Range.holds bound with
  | true => exact Value.order?_int hv hbound
  | false =>
      have hlarge := (not_holds_iff hlow).mp hbound
      have hvmax := (Int64Range.holds_iff.mp hv).2
      have hunits := (units_lt_iff hvmax hlarge).mpr happart
      rw [Value.order?_int_beyond hbound, compare_lt_iff_lt.mpr hunits,
        compare_lt_iff_lt.mpr (show v < bound by omega)]

/-! ## Multiples by floating point numbers -/

open Binary64

theorem tolerance_parts :
    tolerance.negative = false ∧ tolerance.magnitude = rounded unitsPerOne (10 ^ 9) := by
  have hsmall : rounded unitsPerOne (10 ^ 9) ≤ largestMagnitude := by decide +kernel
  have hdecimal : ofDecimal? false 1 (-9) = ofQuotient? false unitsPerOne (10 ^ 9) := by
    unfold ofDecimal?
    dsimp only
    rw [if_neg (by decide), if_neg (by decide), if_neg (by decide), Nat.one_mul]
    rfl
  unfold tolerance
  rw [hdecimal]
  rcases ofQuotient?_cases false unitsPerOne (10 ^ 9) with ⟨x, hx, hnegative, hmagnitude⟩ | hnone
  · rw [hx]
    exact ⟨hnegative, hmagnitude⟩
  · exact absurd hnone.2 (Nat.not_lt.mpr hsmall)

/-- The whole number of ones that is nearest to a number of units. -/
def wholePart (units : Nat) : Nat :=
  (2 * units + unitsPerOne) / (2 * unitsPerOne)

/-- How far a number of units is from a whole number of ones. -/
def offWhole (units : Nat) : Nat :=
  ((units : Int) - (wholePart units * unitsPerOne : Nat)).natAbs

theorem offWhole_le (units : Nat) : offWhole units ≤ unitsPerOne := by
  have hone := unitsPerOne_pos
  have hlow := Nat.div_mul_le_self (2 * units + unitsPerOne) (2 * unitsPerOne)
  have hhigh := Nat.lt_div_mul_add (a := 2 * units + unitsPerOne) (b := 2 * unitsPerOne) (by omega)
  unfold offWhole wholePart
  generalize (2 * units + unitsPerOne) / (2 * unitsPerOne) = whole at hlow hhigh ⊢
  rw [Nat.mul_left_comm] at hlow hhigh
  omega

theorem wholePart_le {units : Nat} (hle : units ≤ 2 * unitsPerOne + 1) :
    wholePart units ≤ 2 ^ 53 := by
  have hone := unitsPerOne_pos
  have hlt : wholePart units < 4 := Nat.div_lt_of_lt_mul (by omega)
  omega

theorem natAbs_roundAway (x : Binary64) : x.roundAway.natAbs = wholePart x.magnitude := by
  unfold roundAway wholePart
  dsimp only
  split
  · rw [Int.natAbs_neg, Int.natAbs_natCast]
  · rw [Int.natAbs_natCast]

theorem magnitude_wholeLike (x : Binary64) (whole : Int) :
    (x.wholeLike whole).magnitude = nearest whole.natAbs := by
  rw [← (ofInt_parts whole).2, magnitude, magnitude, wholeLike]

theorem units_wholeLike {x : Binary64} (hsmall : wholePart x.magnitude ≤ 2 ^ 53) :
    (x.wholeLike x.roundAway).units =
      if x.negative then -((wholePart x.magnitude * unitsPerOne : Nat) : Int)
      else (wholePart x.magnitude * unitsPerOne : Nat) := by
  rw [units, magnitude_wholeLike, natAbs_roundAway, nearest_of_le hsmall, wholeLike]

theorem units_abs (x : Binary64) : x.abs.units = x.magnitude := rfl

theorem units_neg (x : Binary64) : x.neg.units = -x.units := by
  unfold units neg magnitude
  cases x.negative <;> simp

/-- What is left of a number without the nearest whole number. -/
theorem natAbs_off {x : Binary64} (hsmall : wholePart x.magnitude ≤ 2 ^ 53) :
    (x.units + (x.wholeLike x.roundAway).neg.units).natAbs = offWhole x.magnitude := by
  rw [units_neg, units_wholeLike hsmall, units, offWhole]
  cases x.negative
  · rfl
  · simp only [if_true]
    omega

theorem two_ones_le_largestMagnitude : 2 * unitsPerOne + 1 ≤ largestMagnitude := by
  have hones : 2 * unitsPerOne < largestMagnitude := mul_unitsPerOne_lt (by decide)
  omega

/-- A number is nearly a multiple of a larger one if the rounded quotient is off a whole number by
less than the tolerance. -/
theorem nearlyMultiple_iff {x y : Binary64} (hy : 0 < y.magnitude)
    (hle : x.magnitude ≤ y.magnitude) : nearlyMultiple x y = true ↔
      rounded (offWhole (rounded (x.magnitude * unitsPerOne) y.magnitude)) 1 <
        rounded unitsPerOne (10 ^ 9) := by
  obtain ⟨htoleranceSign, htolerance⟩ := tolerance_parts
  have hzero : y.isZero = false := by
    rw [← Bool.not_eq_true, isZero_iff, ← Int.natAbs_eq_zero, natAbs_units]
    omega
  have hquotient : rounded (x.magnitude * unitsPerOne) y.magnitude ≤ 2 * unitsPerOne + 1 := by
    apply rounded_le hy
    rw [Nat.mul_comm]
    exact Nat.mul_le_mul_left _ hle
  rcases ofQuotient?_cases (x.negative != y.negative) (x.magnitude * unitsPerOne) y.magnitude with
    ⟨q, hq, -, hmagnitude⟩ | ⟨-, hlarge⟩
  · have hsmall := wholePart_le (hmagnitude ▸ hquotient)
    have hoff := natAbs_off hsmall
    have hrest : rounded (offWhole q.magnitude) 1 ≤ 2 * unitsPerOne + 1 :=
      rounded_le Nat.one_pos (by rw [Nat.mul_one]; exact offWhole_le _)
    rcases add?_cases q (q.wholeLike q.roundAway).neg with ⟨d, hd, hdifference⟩ | ⟨-, hlarge⟩
    · rw [hoff] at hdifference
      rw [← hmagnitude, ← hdifference, ← htolerance, nearlyMultiple, div?, hzero,
        if_neg Bool.false_ne_true, hq]
      dsimp only
      rw [sub?, hd]
      dsimp only
      rw [order, units_abs, units, htoleranceSign, beq_iff_eq, compare_lt_iff_lt]
      exact Int.ofNat_lt
    · rw [hoff] at hlarge
      exact absurd (Nat.le_trans hrest two_ones_le_largestMagnitude) (Nat.not_le.mpr hlarge)
  · exact absurd (Nat.le_trans hquotient two_ones_le_largestMagnitude) (Nat.not_le.mpr hlarge)

/-! ## Errors of quotients -/

section Errors

variable {n b x y q whole difference limit : ℚ}

/-- A quotient of rounded numbers, rounded itself, is off by three roundings. -/
theorem quotient_error (hn : 0 ≤ n) (hnb : n ≤ b) (hb : 1 ≤ b) (hx : RoundsTo n x)
    (hy : RoundsTo b y) (hq : RoundsTo (x / y) q) : |q * b - n| ≤ 6 / 2 ^ 53 * b := by
  have hunit := halfUnit_pos
  have hsmall := halfUnit_le
  have hscaled : halfUnit ≤ 1 / 2 ^ 200 * b := by linarith
  unfold RoundsTo at hx hy hq
  generalize halfUnit = unit at *
  obtain ⟨hxlow, hxhigh⟩ := abs_le.mp hx
  obtain ⟨hylow, hyhigh⟩ := abs_le.mp hy
  have hypos : 0 < y := by linarith
  have hproduct : |q * y - x| ≤ x / 2 ^ 53 + unit * y := by
    calc |q * y - x|
        = |(q - x / y) * y| := by rw [sub_mul, div_mul_cancel₀ _ hypos.ne']
      _ = |q - x / y| * y := by rw [abs_mul, abs_of_pos hypos]
      _ ≤ (x / y / 2 ^ 53 + unit) * y := mul_le_mul_of_nonneg_right hq hypos.le
      _ = x / 2 ^ 53 + unit * y := by field_simp
  have hunity : unit * y ≤ 1 / 2 ^ 200 * y := mul_le_mul_of_nonneg_right hsmall hypos.le
  have hfactor : |q| ≤ 2 := by
    obtain ⟨hlow, hhigh⟩ := abs_le.mp hproduct
    refine le_of_mul_le_mul_right ?_ hypos
    rw [← abs_of_pos hypos, ← abs_mul, abs_of_pos hypos, abs_le]
    constructor <;> linarith
  have hmiddle : |q * (b - y)| ≤ 2 * (b / 2 ^ 53 + unit) := by
    rw [abs_mul, abs_sub_comm b y]
    exact mul_le_mul hfactor hy (abs_nonneg _) zero_le_two
  have hsum : q * b - n = (q * y - x) + q * (b - y) + (x - n) := by ring
  rw [hsum]
  calc |(q * y - x) + q * (b - y) + (x - n)|
      ≤ |q * y - x| + |q * (b - y)| + |x - n| := abs_add_three _ _ _
    _ ≤ x / 2 ^ 53 + unit * y + 2 * (b / 2 ^ 53 + unit) + (n / 2 ^ 53 + unit) := by
        linarith
    _ ≤ 6 / 2 ^ 53 * b := by linarith

/-- A number whose quotient is found within a billionth of a whole number is within a billionth, and
a millionth of that, of a multiple. -/
theorem near_of_difference_lt (hb : 0 < b) (hq : |q * b - n| ≤ 6 / 2 ^ 53 * b)
    (hdifference : RoundsTo |q - whole| difference) (hlimit : RoundsTo (1 / 10 ^ 9) limit)
    (hlt : difference < limit) : 10 ^ 15 * |n - whole * b| ≤ (10 ^ 6 + 1) * b := by
  have hsmall := halfUnit_le
  have hdistance : |q - whole| ≤ 1 / 10 ^ 9 + 1 / 2 ^ 80 := by
    unfold RoundsTo at hdifference hlimit
    have hlow := (abs_le.mp hdifference).1
    have hhigh := (abs_le.mp hlimit).2
    linarith
  have hscaled : |(q - whole) * b| ≤ (1 / 10 ^ 9 + 1 / 2 ^ 80) * b := by
    rw [abs_mul, abs_of_pos hb]
    exact mul_le_mul_of_nonneg_right hdistance hb.le
  have hsum : n - whole * b = (q - whole) * b - (q * b - n) := by ring
  have htriangle : |n - whole * b| ≤ |(q - whole) * b| + |q * b - n| := by
    rw [hsum]
    exact abs_sub _ _
  linarith

/-- A number within a billionth of a multiple, less a millionth of that, has a quotient close to a
whole number. -/
theorem quotient_near (hb : 0 < b) (hq : |q * b - n| ≤ 6 / 2 ^ 53 * b)
    (hnear : 10 ^ 15 * |n - whole * b| ≤ (10 ^ 6 - 1) * b) :
    |q - whole| ≤ 6 / 2 ^ 53 + (10 ^ 6 - 1) / 10 ^ 15 := by
  refine le_of_mul_le_mul_right ?_ hb
  have hsum : (q - whole) * b = (q * b - n) + (n - whole * b) := by ring
  rw [← abs_of_pos hb, ← abs_mul, abs_of_pos hb, hsum]
  calc |(q * b - n) + (n - whole * b)|
      ≤ |q * b - n| + |n - whole * b| := abs_add_le _ _
    _ ≤ (6 / 2 ^ 53 + (10 ^ 6 - 1) / 10 ^ 15) * b := by linarith

theorem difference_lt_of_near (hnear : |q - whole| ≤ 6 / 2 ^ 53 + (10 ^ 6 - 1) / 10 ^ 15)
    (hdifference : RoundsTo |q - whole| difference) (hlimit : RoundsTo (1 / 10 ^ 9) limit) :
    difference < limit := by
  have hsmall := halfUnit_le
  unfold RoundsTo at hdifference hlimit
  have hhigh := (abs_le.mp hdifference).2
  have hlow := (abs_le.mp hlimit).1
  linarith

end Errors

theorem roundsTo_nearest {n : Nat} (hle : n ≤ 2 ^ 64) : RoundsTo n (inOnes (nearest n)) := by
  have hfits : rounded (n * unitsPerOne) 1 ≤ largestMagnitude := by
    refine Nat.le_trans (rounded_le Nat.one_pos (Nat.mul_one _).ge) ?_
    refine Nat.le_trans (Nat.succ_le_succ (Nat.mul_le_mul_left 2 (Nat.mul_le_mul_right _ hle))) ?_
    have hones : 2 ^ 65 * unitsPerOne < largestMagnitude := mul_unitsPerOne_lt (by decide)
    omega
  have hrounds := roundsTo_rounded (n * unitsPerOne) Nat.one_pos
  rwa [Nat.cast_one, div_one, inOnes_mul_unitsPerOne, ← Nat.min_eq_left hfits] at hrounds

theorem inOnes_lt {n m : Nat} : inOnes n < inOnes m ↔ n < m := by
  rw [inOnes, inOnes, div_lt_div_iff_of_pos_right unitsPerOne_cast_pos, Nat.cast_lt]

theorem inOnes_offWhole (units : Nat) :
    inOnes (offWhole units) = |inOnes units - wholePart units| := by
  have hone := unitsPerOne_cast_pos
  rw [offWhole, inOnes, inOnes, Nat.cast_natAbs, Int.cast_abs, Int.cast_sub, Int.cast_natCast,
    Int.cast_natCast, Nat.cast_mul]
  generalize (unitsPerOne : ℚ) = one at hone ⊢
  rw [← abs_of_pos hone, ← abs_div, abs_of_pos hone, sub_div, mul_div_cancel_right₀ _ hone.ne']

/-- Less than a half away from a whole number that one is the nearest. -/
theorem wholePart_eq {units whole : Nat} (hnear : |inOnes units - whole| < 1 / 2) :
    wholePart units = whole := by
  have hone := unitsPerOne_cast_pos
  have hunits : (units : ℚ) = inOnes units * unitsPerOne := (div_mul_cancel₀ _ hone.ne').symm
  obtain ⟨hlow, hhigh⟩ := abs_lt.mp hnear
  have hlow' : (whole : ℚ) * (2 * unitsPerOne) ≤ 2 * units + unitsPerOne := by
    have hscaled := mul_lt_mul_of_pos_right hlow hone
    linarith
  have hhigh' : (2 * units + unitsPerOne : ℚ) < (whole + 1) * (2 * unitsPerOne) := by
    have hscaled := mul_lt_mul_of_pos_right hhigh hone
    linarith
  refine Nat.div_eq_of_lt_le ?_ ?_
  · exact_mod_cast hlow'
  · exact_mod_cast hhigh'

variable {n b : Nat}

theorem nearest_pos (hpos : 0 < n) : 0 < nearest n := by
  refine Nat.lt_of_lt_of_le ?_ (nearest_mono hpos)
  rw [nearest_of_le (by decide), Nat.one_mul]
  exact unitsPerOne_pos

/-- The rounded quotient of two natural numbers is off by three roundings. -/
theorem rounded_quotient_error (hpos : 0 < b) (hle : n ≤ b) (hb : b ≤ 2 ^ 64) :
    |inOnes (rounded (nearest n * unitsPerOne) (nearest b)) * b - n| ≤ 6 / 2 ^ 53 * (b : ℚ) := by
  have hone : (1 : ℚ) ≤ b := by exact_mod_cast hpos
  have hquotient := roundsTo_rounded (nearest n * unitsPerOne) (nearest_pos hpos)
  have hratio : inOnes (nearest n * unitsPerOne) / (nearest b : ℚ) =
      inOnes (nearest n) / inOnes (nearest b) := by
    rw [inOnes_mul_unitsPerOne, inOnes, inOnes, div_div_div_cancel_right₀ unitsPerOne_cast_pos.ne']
  rw [hratio] at hquotient
  exact quotient_error (Nat.cast_nonneg n) (by exact_mod_cast hle) hone
    (roundsTo_nearest (Nat.le_trans hle hb)) (roundsTo_nearest hb) hquotient

theorem roundsTo_tolerance : RoundsTo (1 / 10 ^ 9) (inOnes (rounded unitsPerOne (10 ^ 9))) := by
  have hbillion : 0 < 10 ^ 9 := by decide
  have hcast : ((10 ^ 9 : Nat) : ℚ) = 10 ^ 9 := by norm_num
  have hrounds := roundsTo_rounded unitsPerOne hbillion
  rwa [inOnes_unitsPerOne, hcast] at hrounds

theorem near_cast {m : Nat} (hnear : 10 ^ 15 * |(n : ℚ) - m * b| ≤ (10 ^ 6 + 1) * b) :
    (10 ^ 15 * |(n : Int) - m * b| : Int) ≤ (10 ^ 6 + 1) * b := by
  exact_mod_cast hnear

/-- A natural number is nearly a multiple of a larger one if it is within a billionth of the latter
from a multiple, give or take a millionth of that. -/
theorem nearlyMultiple_near {x y : Binary64} (hx : x.magnitude = nearest n)
    (hy : y.magnitude = nearest b) (hpos : 0 < b) (hle : n ≤ b) (hb : b ≤ 2 ^ 64) :
    (∀ m : Nat, (10 ^ 15 * |(n : Int) - m * b| : Int) ≤ (10 ^ 6 - 1) * b →
      nearlyMultiple x y = true) ∧
    (nearlyMultiple x y = true →
      ∃ m : Nat, (10 ^ 15 * |(n : Int) - m * b| : Int) ≤ (10 ^ 6 + 1) * b) := by
  have hbpos : (0 : ℚ) < b := Nat.cast_pos.mpr hpos
  have herror := rounded_quotient_error hpos hle hb
  have hlimit := roundsTo_tolerance
  have hpositive : 0 < y.magnitude := by
    rw [hy]
    exact nearest_pos hpos
  have hmagnitudes : x.magnitude ≤ y.magnitude := by
    rw [hx, hy]
    exact nearest_mono hle
  rw [nearlyMultiple_iff hpositive hmagnitudes, hx, hy, ← inOnes_lt]
  generalize rounded (nearest n * unitsPerOne) (nearest b) = quotient at herror ⊢
  have hdifference := roundsTo_rounded (offWhole quotient) Nat.one_pos
  rw [Nat.cast_one, div_one, inOnes_offWhole] at hdifference
  constructor
  · intro m hm
    have hcast : 10 ^ 15 * |(n : ℚ) - m * b| ≤ (10 ^ 6 - 1) * b := by exact_mod_cast hm
    have hnear := quotient_near hbpos herror hcast
    rw [wholePart_eq (lt_of_le_of_lt hnear (by norm_num))] at hdifference
    exact difference_lt_of_near hnear hdifference hlimit
  · intro hlt
    exact ⟨_, near_cast (near_of_difference_lt hbpos herror hdifference hlimit hlt)⟩

/-! ## Checks of integers -/

/-- The relation between an integer and a bound that the constraint with a name asks for. -/
def Demands (name : String) (bound v : Int) : Prop :=
  match name with
  | "ge" => bound ≤ v
  | "gt" => bound < v
  | "le" => v ≤ bound
  | "lt" => v < bound
  | "multiple_of" => bound ∣ v
  | _ => False

/-- What the check of an integer of 64 bits against a bound answers. -/
structure Answers (name : String) (bound v : Int) (answer : Bool) : Prop where
  within : Int64Range.holds bound = true → (answer = true ↔ Demands name bound v)
  strictlyAbove : name = "gt" ∨ name = "le" → (answer = true ↔ Demands name bound v)
  notBelow : name = "ge" ∨ name = "lt" →
    ((answer = true ↔ Demands name bound v) ↔ ¬ RoundTogether bound v)
  multiple : name = "multiple_of" → Int64Range.holds bound = false →
    (∀ m : Int, 10 ^ 15 * |v - m * bound| ≤ (10 ^ 6 - 1) * bound → answer = true) ∧
    (answer = true → ∃ m : Int, 10 ^ 15 * |v - m * bound| ≤ (10 ^ 6 + 1) * bound)

/-- A comparison with a bound answers as the integers do, or as if they were equal where they are
rounded together. -/
theorem answers_of_order {name : String} {accepts : Ordering → Bool}
    (hv : Int64Range.holds v = true) (hlow : -2 ^ 63 ≤ bound)
    (hname : name = "ge" ∨ name = "gt" ∨ name = "le" ∨ name = "lt")
    (hdemands : accepts (compare v bound) = true ↔ Demands name bound v)
    (hequal : accepts .eq = true ↔ name = "ge" ∨ name = "le") :
    Answers name bound v (((Value.int v).order? (.int bound)).any accepts) := by
  by_cases htogether : RoundTogether bound v
  · have hbound := htogether.2.1
    have hvmax := (Int64Range.holds_iff.mp hv).2
    rw [order?_of_roundTogether hv htogether, Option.any_some]
    constructor
    · intro hwithin
      have hmax := (Int64Range.holds_iff.mp hwithin).2
      omega
    · rintro (rfl | rfl)
      · simp [hequal, Demands]
        omega
      · simp [hequal, Demands]
        omega
    · rintro (rfl | rfl)
      · simp [hequal, Demands, htogether]
        omega
      · simp [hequal, Demands, htogether]
        omega
    · rintro rfl
      simp at hname
  · rw [order?_of_not_roundTogether hv hlow htogether, Option.any_some]
    constructor
    · exact fun _ => hdemands
    · exact fun _ => hdemands
    · intro _
      simp only [hdemands, htogether, not_false_eq_true]
    · rintro rfl
      simp at hname

section Comparisons

variable (hv : Int64Range.holds v = true) (hlow : -2 ^ 63 ≤ bound)

include hv hlow

theorem atLeast_answers : Answers "ge" bound v ((atLeast (.int bound)).holds (.int v)) := by
  apply answers_of_order hv hlow (by decide)
  · simp [Demands, compare_ge_iff_ge]
  · decide

theorem above_answers : Answers "gt" bound v ((above (.int bound)).holds (.int v)) := by
  apply answers_of_order hv hlow (by decide)
  · simp [Demands, compare_gt_iff_gt]
  · decide

theorem atMost_answers : Answers "le" bound v ((atMost (.int bound)).holds (.int v)) := by
  apply answers_of_order hv hlow (by decide)
  · simp [Demands, compare_le_iff_le]
  · decide

theorem below_answers : Answers "lt" bound v ((below (.int bound)).holds (.int v)) := by
  apply answers_of_order hv hlow (by decide)
  · simp [Demands, compare_lt_iff_lt]
  · decide

end Comparisons

theorem isMultiple_int (hv : Int64Range.holds v = true) (hbound : Int64Range.holds bound = true)
    (hne : bound ≠ 0) : isMultiple (.int v) (.int bound) = true ↔ bound ∣ v := by
  rw [isMultiple, Value.int64?_int hv, Value.int64?_int hbound]
  simp only [if_neg hne, beq_iff_eq]
  exact Int.dvd_iff_tmod_eq_zero.symm

theorem isMultiple_beyond (hbound : Int64Range.holds bound = false) :
    isMultiple (.int v) (.int bound) =
      nearlyMultiple (Binary64.ofInt v) (Binary64.ofInt bound) := by
  rw [isMultiple, Value.int64?_int_eq_none hbound]
  cases (Value.int v).int64? <;> rfl

/-- Integers are multiples of a bound beyond 64 bits as the quotients of floating point numbers
have it. -/
theorem isMultiple_near (hv : Int64Range.holds v = true) (hlow : 2 ^ 63 ≤ bound)
    (hhigh : bound < 2 ^ 64) :
    (∀ m : Int, 10 ^ 15 * |v - m * bound| ≤ (10 ^ 6 - 1) * bound →
      isMultiple (.int v) (.int bound) = true) ∧
    (isMultiple (.int v) (.int bound) = true →
      ∃ m : Int, 10 ^ 15 * |v - m * bound| ≤ (10 ^ 6 + 1) * bound) := by
  have hrange := Int64Range.holds_iff.mp hv
  obtain ⟨b, rfl⟩ := Int.eq_ofNat_of_zero_le (show 0 ≤ bound by omega)
  obtain ⟨hto, hfrom⟩ := nearlyMultiple_near (Binary64.ofInt_parts v).2
    (Binary64.ofInt_parts b).2 (show 0 < (b : Int).natAbs by omega) (by omega) (by omega)
  rw [isMultiple_beyond ((not_holds_iff (by omega)).mpr hlow)]
  simp only [Int.natCast_natAbs, abs_of_nonneg (Int.natCast_nonneg b)] at hto hfrom
  constructor
  · intro m hm
    apply hto m.natAbs
    rw [Int.natCast_natAbs]
    calc 10 ^ 15 * |(|v| - |m| * (b : Int))|
        = 10 ^ 15 * |(|v| - |m * (b : Int)|)| := by
          rw [abs_mul, abs_of_nonneg (Int.natCast_nonneg b)]
      _ ≤ 10 ^ 15 * |v - m * b| :=
          Int.mul_le_mul_of_nonneg_left (abs_abs_sub_abs_le _ _) (by decide)
      _ ≤ (10 ^ 6 - 1) * b := hm
  · intro hmultiple
    obtain ⟨m, hm⟩ := hfrom hmultiple
    rcases Int.le_total 0 v with hpos | hneg
    · rw [abs_of_nonneg hpos] at hm
      exact ⟨m, hm⟩
    · -- The multiple lies on the side of the integer.
      rw [abs_of_nonpos hneg] at hm
      refine ⟨-m, ?_⟩
      have hopposite : v - -m * b = -(-v - m * b) := by ring
      rwa [hopposite, abs_neg]

theorem multipleOf_answers (hv : Int64Range.holds v = true) (hlow : -2 ^ 63 ≤ bound)
    (hhigh : bound < 2 ^ 64) (hne : bound ≠ 0) :
    Answers "multiple_of" bound v ((multipleOf (.int bound)).holds (.int v)) := by
  constructor
  · exact fun hwithin => isMultiple_int hv hwithin hne
  · rintro (hname | hname) <;> simp at hname
  · rintro (hname | hname) <;> simp at hname
  · exact fun _ hbeyond => isMultiple_near hv ((not_holds_iff hlow).mp hbeyond) hhigh

/-- Constraints on integers are exact within 64 bits. Every declared constraint on an integer field
whose bound has 64 bits with a sign answers for every coerced value as the integers themselves do:
their order, and whether one divides the other. A larger bound is a floating point number: then
`gt` and `le` are still exact, `ge` and `lt` are wrong just where the integer and the bound are
rounded together, and a multiple is what comes within a billionth of one. -/
theorem integer_checks {raw value : Value} {name : String} {constraint : Constraint}
    (hcoerce : (LeafType.scalar .integer).coerce? raw = some value)
    (hlow : -2 ^ 63 ≤ bound) (hhigh : bound < 2 ^ 64)
    (hread : Constraint.read name (.int bound) (.scalar .integer) = .ok constraint) :
    ∃ v, value = .int v ∧ Int64Range.holds v = true ∧
      Answers name bound v (constraint.holds value) := by
  obtain ⟨v, hinteger, rfl⟩ := Option.map_eq_some_iff.mp hcoerce
  have hv := Int64Range.holds_of_check? (ScalarType.readInteger?_idem hinteger)
  refine ⟨v, rfl, hv, ?_⟩
  obtain ⟨rule, hrule, htype, htakes⟩ := valid_of_read hread
  obtain ⟨rfl, hbound⟩ := Prod.mk.inj (declaration_of_read hread)
  cases constraint with
  | atLeast b =>
      cases hbound
      exact atLeast_answers hv hlow
  | above b =>
      cases hbound
      exact above_answers hv hlow
  | atMost b =>
      cases hbound
      exact atMost_answers hv hlow
  | below b =>
      cases hbound
      exact below_answers hv hlow
  | multipleOf b =>
      cases hbound
      cases hrule
      obtain ⟨number, hnumber, hzero⟩ := htakes
      cases hnumber
      exact multipleOf_answers hv hlow hhigh (by simpa [Binary64.isZero_ofInt] using hzero)
  | minLength size | maxLength size | minItems size | maxItems size | pattern p =>
      -- These ask for a length or for a text, which an integer does not have.
      cases hrule
      exact absurd htype (by decide)

/-- The largest integer passes as one that is at least the integer after it. -/
theorem largest_reaches_next :
    let largest : Int := 2 ^ 63 - 1
    let next : Int := 2 ^ 63
    Constraint.read "ge" (.int next) (.scalar .integer) = .ok (.atLeast (.int next)) ∧
      (atLeast (.int next)).holds (.int largest) = true ∧ ¬ next ≤ largest := by
  intro largest next
  have hread : Constraint.read "ge" (.int next) (.scalar .integer) =
      .ok (.atLeast (.int next)) := rfl
  have hcoerce : (LeafType.scalar .integer).coerce? (.int largest) = some (.int largest) := rfl
  have htogether : RoundTogether next largest := by decide
  obtain ⟨v, hv, -, hanswers⟩ := integer_checks hcoerce (by decide) (by decide) hread
  cases hv
  have hwrong := mt (hanswers.notBelow (.inl rfl)).mp (not_not_intro htogether)
  have habove : ¬ next ≤ largest := by decide
  refine ⟨hread, ?_, habove⟩
  by_contra hfails
  exact hwrong ⟨fun hpasses => absurd hpasses hfails, fun hdemands => absurd hdemands habove⟩

end Constraint

end SchemaGuard
