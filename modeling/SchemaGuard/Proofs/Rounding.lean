import SchemaGuard.Proofs.Number
import Mathlib.Data.Nat.Log
import Mathlib.Tactic.FieldSimp

/-! # Rounding

A quotient of units is rounded to a number of 53 bits. Rounding keeps the order, leaves alone what
has few enough bits, and is off by half a unit in the last place at most. Integers inherit all
of this, and up to `2 ^ 53` each of them is a number of its own.
-/

namespace SchemaGuard.Binary64

/-! ## Halves -/

theorem halfEven_le (numerator denominator : Nat) :
    halfEven numerator denominator ≤ numerator / denominator + 1 := by
  unfold halfEven
  dsimp only
  split
  · exact Nat.le_succ _
  · split
    · exact Nat.le_refl _
    · split
      · exact Nat.le_succ _
      · exact Nat.le_refl _

/-- A rounded quotient is off by a half at most. -/
theorem halfEven_near (numerator : Nat) {denominator : Nat} (hpos : 0 < denominator) :
    2 * numerator ≤ 2 * (halfEven numerator denominator * denominator) + denominator ∧
      2 * (halfEven numerator denominator * denominator) ≤ 2 * numerator + denominator := by
  have hdivision := Nat.div_add_mod numerator denominator
  have hremainder := Nat.mod_lt numerator hpos
  rw [Nat.mul_comm denominator] at hdivision
  unfold halfEven
  dsimp only
  split
  · omega
  · split
    · rw [Nat.add_one_mul (numerator / denominator)]
      omega
    · split
      · omega
      · rw [Nat.add_one_mul (numerator / denominator)]
        omega

theorem halfEven_mono {numerator larger : Nat} (hle : numerator ≤ larger) (denominator : Nat) :
    halfEven numerator denominator ≤ halfEven larger denominator := by
  rcases Nat.lt_or_ge (numerator / denominator) (larger / denominator) with hlt | hge
  · calc halfEven numerator denominator
        ≤ numerator / denominator + 1 := halfEven_le _ _
      _ ≤ larger / denominator := hlt
      _ ≤ halfEven larger denominator := le_halfEven _ _
  · have hfloor := Nat.le_antisymm (Nat.div_le_div_right (c := denominator) hle) hge
    have hnumerator := Nat.div_add_mod numerator denominator
    have hlarger := Nat.div_add_mod larger denominator
    rw [← hfloor] at hlarger
    unfold halfEven
    dsimp only
    rw [← hfloor]
    split_ifs <;> omega

theorem halfEven_of_dvd {numerator denominator : Nat} (hdvd : denominator ∣ numerator) :
    halfEven numerator denominator = numerator / denominator := by
  rcases Nat.eq_zero_or_pos denominator with rfl | hpos
  · rw [Nat.zero_dvd.mp hdvd]
    rfl
  · unfold halfEven
    dsimp only
    rw [Nat.mod_eq_zero_of_dvd hdvd, Nat.mul_zero, if_pos hpos]

/-! ## The last place -/

/-- The distance of neighbouring numbers near a quotient of units. -/
def lastPlace (numerator denominator : Nat) : Nat :=
  2 ^ (Nat.log2 (numerator / denominator) - 52)

/-- The units of the number that a quotient of units is rounded to, however large it is. -/
def rounded (numerator denominator : Nat) : Nat :=
  halfEven numerator (denominator * lastPlace numerator denominator) *
    lastPlace numerator denominator

variable {numerator larger denominator : Nat}

theorem lastPlace_pos (numerator denominator : Nat) : 0 < lastPlace numerator denominator :=
  Nat.two_pow_pos _

/-- A quotient reaches to 53 bits above its last place at most. -/
theorem quotient_lt_lastPlace (numerator denominator : Nat) :
    numerator / denominator < 2 ^ 53 * lastPlace numerator denominator := by
  calc numerator / denominator
      < 2 ^ (Nat.log2 (numerator / denominator) + 1) := Nat.lt_log2_self
    _ ≤ 2 ^ (53 + (Nat.log2 (numerator / denominator) - 52)) :=
        Nat.pow_le_pow_right (by decide) (by omega)
    _ = 2 ^ 53 * lastPlace numerator denominator := Nat.pow_add _ _ _

/-- A quotient whose last place is not a unit fills all 53 bits. -/
theorem lastPlace_le_quotient (numerator denominator : Nat) :
    lastPlace numerator denominator = 1 ∨
      2 ^ 52 * lastPlace numerator denominator ≤ numerator / denominator := by
  rcases Nat.le_total (Nat.log2 (numerator / denominator)) 52 with hsmall | hlarge
  · left
    rw [lastPlace, Nat.sub_eq_zero_of_le hsmall, Nat.pow_zero]
  · right
    have hne : numerator / denominator ≠ 0 := by
      intro hzero
      rw [hzero] at hlarge
      exact absurd hlarge (by decide)
    rw [lastPlace, ← Nat.pow_add, Nat.add_sub_cancel' hlarge]
    exact Nat.log2_self_le hne

theorem lastPlace_mono (hle : numerator ≤ larger) (denominator : Nat) :
    lastPlace numerator denominator = lastPlace larger denominator ∨
      2 * lastPlace numerator denominator ≤ lastPlace larger denominator := by
  have hlog : Nat.log2 (numerator / denominator) ≤ Nat.log2 (larger / denominator) := by
    rw [Nat.log2_eq_log_two, Nat.log2_eq_log_two]
    exact Nat.log_mono_right (Nat.div_le_div_right hle)
  unfold lastPlace
  generalize Nat.log2 (numerator / denominator) = low at hlog ⊢
  generalize Nat.log2 (larger / denominator) = high at hlog ⊢
  rcases Nat.eq_or_lt_of_le (Nat.sub_le_sub_right hlog 52) with heq | hlt
  · exact .inl (by rw [heq])
  · right
    rw [Nat.mul_comm, ← Nat.pow_succ]
    exact Nat.pow_le_pow_right (by decide) hlt

/-! ## Rounded quotients -/

/-- The digits of a rounded quotient: at most 53 bits, and no fewer above the smallest last place. -/
theorem significand_le (numerator denominator : Nat) :
    halfEven numerator (denominator * lastPlace numerator denominator) ≤ 2 ^ 53 := by
  calc halfEven numerator (denominator * lastPlace numerator denominator)
      ≤ numerator / (denominator * lastPlace numerator denominator) + 1 := halfEven_le _ _
    _ = numerator / denominator / lastPlace numerator denominator + 1 := by
        rw [Nat.div_div_eq_div_mul]
    _ ≤ 2 ^ 53 := Nat.div_lt_of_lt_mul
        (Nat.mul_comm _ _ ▸ quotient_lt_lastPlace numerator denominator)

theorem le_significand (hplace : lastPlace numerator denominator ≠ 1) :
    2 ^ 52 ≤ halfEven numerator (denominator * lastPlace numerator denominator) := by
  calc 2 ^ 52
      ≤ numerator / denominator / lastPlace numerator denominator :=
        (Nat.le_div_iff_mul_le (lastPlace_pos _ _)).mpr
          ((lastPlace_le_quotient _ _).resolve_left hplace)
    _ = numerator / (denominator * lastPlace numerator denominator) := Nat.div_div_eq_div_mul ..
    _ ≤ halfEven numerator (denominator * lastPlace numerator denominator) := le_halfEven _ _

theorem rounded_mono (hle : numerator ≤ larger) (denominator : Nat) :
    rounded numerator denominator ≤ rounded larger denominator := by
  rcases lastPlace_mono hle denominator with heq | hlt
  · rw [rounded, rounded, heq]
    exact Nat.mul_le_mul_right _ (halfEven_mono hle _)
  · -- The larger quotient has a longer last place, which alone outweighs all of the smaller one.
    have hplace : lastPlace larger denominator ≠ 1 := by
      have hpos := lastPlace_pos numerator denominator
      omega
    calc rounded numerator denominator
        ≤ 2 ^ 53 * lastPlace numerator denominator :=
          Nat.mul_le_mul_right _ (significand_le _ _)
      _ = 2 ^ 52 * (2 * lastPlace numerator denominator) := by omega
      _ ≤ 2 ^ 52 * lastPlace larger denominator := Nat.mul_le_mul_left _ hlt
      _ ≤ rounded larger denominator := Nat.mul_le_mul_right _ (le_significand hplace)

/-- Units that end with the last place are kept. -/
theorem rounded_of_dvd (hdvd : lastPlace numerator 1 ∣ numerator) :
    rounded numerator 1 = numerator := by
  rw [rounded, Nat.one_mul, halfEven_of_dvd hdvd, Nat.div_mul_cancel hdvd]

/-- A rounded quotient is off by half a unit in the last place at most: by the last of 53 bits, and
below 53 bits by half a unit. -/
theorem rounded_near (numerator : Nat) {denominator : Nat} (hpos : 0 < denominator) :
    2 ^ 53 * numerator ≤
        2 ^ 53 * (rounded numerator denominator * denominator) +
          (numerator + 2 ^ 52 * denominator) ∧
      2 ^ 53 * (rounded numerator denominator * denominator) ≤
        2 ^ 53 * numerator + (numerator + 2 ^ 52 * denominator) := by
  obtain ⟨hlow, hhigh⟩ := halfEven_near numerator (Nat.mul_pos hpos (lastPlace_pos _ _))
  have hrounded : halfEven numerator (denominator * lastPlace numerator denominator) *
      (denominator * lastPlace numerator denominator) =
        rounded numerator denominator * denominator := by
    rw [rounded, Nat.mul_comm denominator, Nat.mul_assoc]
  have hplace : 2 ^ 52 * (denominator * lastPlace numerator denominator) ≤
      numerator + 2 ^ 52 * denominator := by
    rcases lastPlace_le_quotient numerator denominator with hone | hfull
    · rw [hone, Nat.mul_one]
      exact Nat.le_add_left _ _
    · calc 2 ^ 52 * (denominator * lastPlace numerator denominator)
          = 2 ^ 52 * lastPlace numerator denominator * denominator := by
            rw [Nat.mul_comm denominator, Nat.mul_assoc]
        _ ≤ numerator / denominator * denominator := Nat.mul_le_mul_right _ hfull
        _ ≤ numerator := Nat.div_mul_le_self _ _
        _ ≤ numerator + 2 ^ 52 * denominator := Nat.le_add_right _ _
  rw [hrounded] at hlow hhigh
  omega

/-! ## Rounded numbers -/

/-- The units of the largest number. -/
def largestMagnitude : Nat := 0x1fffffffffffff * Nat.pow 2 2045

theorem magnitude_le (x : Binary64) : x.magnitude ≤ largestMagnitude := by
  have hshift := x.shift_le
  unfold magnitude largestMagnitude
  generalize 2045 = top at hshift ⊢
  exact Nat.mul_le_mul (Nat.le_of_lt_succ x.significand_lt)
    (Nat.pow_le_pow_right (by decide) hshift)

theorem pow_le_unitsPerOne : 2 ^ 200 ≤ unitsPerOne := by
  have hexponent : 200 ≤ 1074 := by decide
  unfold unitsPerOne
  generalize 1074 = exponent at hexponent ⊢
  exact Nat.pow_le_pow_right (by decide) hexponent

/-- The range is far wider than the whole numbers of two hundred bits. -/
theorem mul_unitsPerOne_lt {n : Nat} (hn : n ≤ 2 ^ 200) :
    n * unitsPerOne < largestMagnitude := by
  have hexponent : 200 + 1074 ≤ 2045 := by decide
  unfold unitsPerOne largestMagnitude
  generalize 1074 = one at hexponent ⊢
  generalize 2045 = top at hexponent ⊢
  calc n * Nat.pow 2 one
      ≤ 2 ^ 200 * Nat.pow 2 one := Nat.mul_le_mul_right _ hn
    _ = 2 ^ (200 + one) := (Nat.pow_add 2 200 one).symm
    _ ≤ 2 ^ top := Nat.pow_le_pow_right (by decide) hexponent
    _ < 0x1fffffffffffff * Nat.pow 2 top :=
        lt_mul_left (Nat.pow_pos (by decide)) (by decide)

theorem unitsPerOne_dvd_largestMagnitude : unitsPerOne ∣ largestMagnitude := by
  have hexponent : 1074 ≤ 2045 := by decide
  unfold unitsPerOne largestMagnitude
  generalize 1074 = one at hexponent ⊢
  generalize 2045 = top at hexponent ⊢
  exact Nat.dvd_mul_left_of_dvd (Nat.pow_dvd_pow 2 hexponent) _

/-- A number is made of digits as rounding leaves them, unless it would be too large. -/
theorem ofParts?_cases (negative : Bool) {significand shift : Nat}
    (hlt : significand < 2 ^ 53) (hnormal : shift = 0 ∨ 2 ^ 52 ≤ significand) :
    (∃ x, ofParts? negative significand shift = some x ∧ x.negative = negative ∧
      x.magnitude = significand * 2 ^ shift) ∨
    ofParts? negative significand shift = none ∧
      largestMagnitude < significand * 2 ^ shift := by
  unfold ofParts?
  split
  next => exact .inl ⟨_, rfl, rfl, rfl⟩
  next hparts =>
    right
    refine ⟨rfl, ?_⟩
    have hshift : 2046 ≤ shift := by
      by_contra hle
      exact hparts ⟨hlt, by omega, hnormal⟩
    have hsignificand : 2 ^ 52 ≤ significand := by
      rcases hnormal with rfl | hnormal
      · exact absurd hshift (by decide)
      · exact hnormal
    calc largestMagnitude
        < 2 ^ 52 * 2 ^ 2046 := by decide +kernel
      _ ≤ significand * 2 ^ shift :=
        Nat.mul_le_mul hsignificand (Nat.pow_le_pow_right (by decide) hshift)

/-- A quotient is rounded to a number, or beyond the largest one. -/
theorem ofQuotient?_cases (negative : Bool) (numerator denominator : Nat) :
    (∃ x, ofQuotient? negative numerator denominator = some x ∧ x.negative = negative ∧
      x.magnitude = rounded numerator denominator) ∨
    ofQuotient? negative numerator denominator = none ∧
      largestMagnitude < rounded numerator denominator := by
  have hle := significand_le numerator denominator
  have hnormal := @le_significand numerator denominator
  unfold ofQuotient? rounded
  unfold lastPlace at hle hnormal ⊢
  simp only [Nat.pow_eq]
  generalize Nat.log2 (numerator / denominator) - 52 = shift at hle hnormal ⊢
  generalize halfEven numerator (denominator * 2 ^ shift) = significand at hle hnormal ⊢
  split
  next hcarry =>
    -- A carry out of the last of 53 bits moves the digits by one place.
    have hvalue : significand * 2 ^ shift = 0x10000000000000 * 2 ^ (shift + 1) := by
      rw [hcarry, Nat.pow_succ]
      omega
    rw [hvalue]
    exact ofParts?_cases negative (by decide) (.inr (by decide))
  next hcarry =>
    refine ofParts?_cases negative (Nat.lt_of_le_of_ne hle hcarry) ?_
    by_cases hshift : shift = 0
    · exact .inl hshift
    · right
      exact hnormal (Nat.one_lt_two_pow hshift).ne'

/-- Rounding at most doubles a quotient. -/
theorem rounded_le {bound : Nat} (hpos : 0 < denominator)
    (hle : numerator ≤ bound * denominator) :
    rounded numerator denominator ≤ 2 * bound + 1 := by
  obtain ⟨-, hhigh⟩ := rounded_near numerator hpos
  refine Nat.le_of_mul_le_mul_right ?_ hpos
  rw [Nat.add_mul, Nat.mul_assoc]
  omega

/-- A sum is rounded to a number, or beyond the largest one. -/
theorem add?_cases (x y : Binary64) :
    (∃ z, add? x y = some z ∧ z.magnitude = rounded (x.units + y.units).natAbs 1) ∨
    add? x y = none ∧ largestMagnitude < rounded (x.units + y.units).natAbs 1 := by
  unfold add?
  dsimp only
  split
  next hzero =>
    have hnothing : rounded (0 : Int).natAbs 1 = 0 := by decide
    rw [hzero, hnothing]
    exact .inl ⟨_, rfl, Nat.zero_mul _⟩
  next =>
    unfold ofUnits?
    rcases ofQuotient?_cases (decide (x.units + y.units < 0)) (x.units + y.units).natAbs 1 with
      ⟨z, hz, -, hmagnitude⟩ | hnone
    · exact .inl ⟨z, hz, hmagnitude⟩
    · exact .inr hnone

/-! ## Integers as numbers -/

/-- The units of the number that is nearest to a natural number. -/
def nearest (n : Nat) : Nat :=
  min (rounded (n * unitsPerOne) 1) largestMagnitude

theorem ofInt_parts (i : Int) :
    (ofInt i).negative = decide (i < 0) ∧ (ofInt i).magnitude = nearest i.natAbs := by
  have hone : (0 : Int) < unitsPerOne := Int.natCast_pos.mpr unitsPerOne_pos
  have hsign : i * unitsPerOne < 0 ↔ i < 0 := by
    generalize (unitsPerOne : Int) = one at hone
    have hless := Int.mul_lt_mul_right (b := i) (c := 0) hone
    rwa [Int.zero_mul] at hless
  have hunits : (i * unitsPerOne).natAbs = i.natAbs * unitsPerOne := by
    rw [Int.natAbs_mul, Int.natAbs_natCast]
  unfold ofInt ofUnits? nearest
  rw [decide_eq_decide.mpr hsign, hunits]
  rcases ofQuotient?_cases (decide (i < 0)) (i.natAbs * unitsPerOne) 1 with
    ⟨x, hx, hnegative, hmagnitude⟩ | ⟨hnone, hlarge⟩
  · rw [hx, Option.getD_some]
    refine ⟨hnegative, ?_⟩
    rw [Nat.min_eq_left (hmagnitude ▸ magnitude_le x), hmagnitude]
  · rw [hnone, Option.getD_none, Nat.min_eq_right (Nat.le_of_lt hlarge)]
    refine ⟨rfl, ?_⟩
    rw [largest, magnitude, largestMagnitude]

theorem units_ofInt (i : Int) :
    (ofInt i).units = if i < 0 then -(nearest i.natAbs : Int) else nearest i.natAbs := by
  obtain ⟨hnegative, hmagnitude⟩ := ofInt_parts i
  rw [units, hnegative, hmagnitude]
  simp only [decide_eq_true_eq]

theorem nearest_mono {n m : Nat} (hle : n ≤ m) : nearest n ≤ nearest m := by
  have hrounded := rounded_mono (Nat.mul_le_mul_right unitsPerOne hle) 1
  unfold nearest
  omega

/-- Rounding keeps the order of integers. -/
theorem units_ofInt_mono {i j : Int} (hle : i ≤ j) : (ofInt i).units ≤ (ofInt j).units := by
  rw [units_ofInt, units_ofInt]
  split_ifs with hi hj hj
  · have hnearest := nearest_mono (show j.natAbs ≤ i.natAbs by omega)
    omega
  · omega
  · omega
  · have hnearest := nearest_mono (show i.natAbs ≤ j.natAbs by omega)
    omega

theorem unitsPerOne_eq : ∃ exponent, unitsPerOne = 2 ^ exponent := by
  unfold unitsPerOne
  generalize 1074 = exponent
  exact ⟨exponent, rfl⟩

/-- The last place of at most 53 bits in front of a power is not above the power. -/
theorem lastPlace_dvd_pow {n : Nat} (hlt : n < 2 ^ 53) (exponent : Nat) :
    lastPlace (n * 2 ^ exponent) 1 ∣ 2 ^ exponent := by
  refine Nat.pow_dvd_pow 2 ?_
  rw [Nat.div_one]
  rcases Nat.eq_zero_or_pos n with rfl | hpos
  · simp
  · have hlog : Nat.log2 (n * 2 ^ exponent) < 53 + exponent := by
      rw [Nat.log2_lt (Nat.mul_pos hpos (Nat.two_pow_pos _)).ne', Nat.pow_add]
      exact Nat.mul_lt_mul_of_pos_right hlt (Nat.two_pow_pos _)
    omega

/-- A number is made of so few digits that rounding keeps it. -/
theorem rounded_magnitude (x : Binary64) : rounded x.magnitude 1 = x.magnitude := by
  apply rounded_of_dvd
  exact Nat.dvd_trans (lastPlace_dvd_pow x.significand_lt x.shift) (Nat.dvd_mul_left _ _)

/-- The quotient of a multiple is whole, also after rounding. -/
theorem unitsPerOne_dvd_rounded (k : Nat) {denominator : Nat} (hpos : 0 < denominator) :
    unitsPerOne ∣ rounded (k * denominator * unitsPerOne) denominator := by
  obtain ⟨exponent, hone⟩ := unitsPerOne_eq
  generalize unitsPerOne = one at hone ⊢
  have hnumerator : k * denominator * one = denominator * (k * one) := by
    rw [Nat.mul_comm k, Nat.mul_assoc]
  rw [hnumerator, rounded]
  have hplace : lastPlace (denominator * (k * one)) denominator ∣ one ∨
      one ∣ lastPlace (denominator * (k * one)) denominator := by
    rw [lastPlace]
    generalize Nat.log2 (denominator * (k * one) / denominator) - 52 = place
    subst hone
    rcases Nat.le_total place exponent with hle | hle
    · exact .inl (Nat.pow_dvd_pow 2 hle)
    · exact .inr (Nat.pow_dvd_pow 2 hle)
  generalize lastPlace (denominator * (k * one)) denominator = place at hplace ⊢
  rcases hplace with hwithin | hbeyond
  · -- The last place is a fraction of one or one itself, so the quotient is kept as it is.
    have hdvd : place ∣ k * one := Nat.dvd_trans hwithin (Nat.dvd_mul_left _ _)
    rw [halfEven_of_dvd (Nat.mul_dvd_mul_left denominator hdvd),
      Nat.mul_div_mul_left _ _ hpos, Nat.div_mul_cancel hdvd]
    exact Nat.dvd_mul_left _ _
  · exact Nat.dvd_trans hbeyond (Nat.dvd_mul_left _ _)

/-- A natural number of at most 53 bits, or the first one of 54, is a number as it is. -/
theorem nearest_of_le {n : Nat} (hle : n ≤ 2 ^ 53) : nearest n = n * unitsPerOne := by
  have hsmall : n * unitsPerOne ≤ largestMagnitude :=
    (mul_unitsPerOne_lt (Nat.le_trans hle (by decide))).le
  have hdvd : lastPlace (n * unitsPerOne) 1 ∣ n * unitsPerOne := by
    rcases Nat.eq_or_lt_of_le hle with rfl | hlt
    · decide +kernel
    · obtain ⟨exponent, hone⟩ := unitsPerOne_eq
      rw [hone]
      exact Nat.dvd_trans (lastPlace_dvd_pow hlt _) (Nat.dvd_mul_left _ _)
  rw [nearest, rounded_of_dvd hdvd, Nat.min_eq_left hsmall]

/-- An integer is a number as it is if its magnitude is. -/
theorem units_ofInt_of_nearest {i : Int} (hnearest : nearest i.natAbs = i.natAbs * unitsPerOne) :
    (ofInt i).units = i * unitsPerOne := by
  rw [units_ofInt, hnearest, Int.natCast_mul]
  split_ifs with hi
  · rw [← Int.neg_mul]
    congr 1
    omega
  · congr 1
    omega

theorem units_ofInt_of_le {i : Int} (hle : i.natAbs ≤ 2 ^ 53) :
    (ofInt i).units = i * unitsPerOne :=
  units_ofInt_of_nearest (nearest_of_le hle)

/-- Two integers that are one number are both beyond 53 bits. -/
theorem natAbs_of_units_eq {i j : Int} (hne : i ≠ j)
    (hunits : (ofInt i).units = (ofInt j).units) : 2 ^ 53 ≤ i.natAbs := by
  by_contra hlt
  have hone : (0 : Int) < unitsPerOne := Int.natCast_pos.mpr unitsPerOne_pos
  have hbound : (2 : Int) ^ 53 = (2 ^ 53 : Nat) := rfl
  have hi := units_ofInt_of_le (i := i) (by omega)
  rcases Nat.lt_or_ge (2 ^ 53) j.natAbs with hfar | hnear
  · -- What lies beyond 53 bits stays there when it is rounded.
    have hhigh := units_ofInt_of_le (i := 2 ^ 53) (by decide)
    have hlow := units_ofInt_of_le (i := -2 ^ 53) (by decide)
    rcases Int.le_total 0 j with hj | hj
    · have hmono := units_ofInt_mono (show 2 ^ 53 ≤ j by omega)
      rw [← hunits, hi, hhigh] at hmono
      have := Int.le_of_mul_le_mul_right hmono hone
      omega
    · have hmono := units_ofInt_mono (show j ≤ -2 ^ 53 by omega)
      rw [← hunits, hi, hlow] at hmono
      have := Int.le_of_mul_le_mul_right hmono hone
      omega
  · rw [hi, units_ofInt_of_le hnear] at hunits
    exact hne (Int.eq_of_mul_eq_mul_right hone.ne' hunits)

/-! ## Errors -/

/-- The value of a whole number of units. -/
def inOnes (units : Nat) : ℚ :=
  units / unitsPerOne

/-- Half of the smallest positive number. -/
def halfUnit : ℚ := 1 / (2 * unitsPerOne)

theorem unitsPerOne_cast_pos : (0 : ℚ) < unitsPerOne :=
  Nat.cast_pos.mpr unitsPerOne_pos

theorem halfUnit_pos : 0 < halfUnit :=
  div_pos one_pos (mul_pos two_pos unitsPerOne_cast_pos)

/-- Half a unit is negligible beside the last of 53 bits. -/
theorem halfUnit_le : halfUnit ≤ 1 / 2 ^ 200 := by
  have hone := pow_le_unitsPerOne
  have hcast : ((2 : ℚ) ^ 200) ≤ unitsPerOne := by exact_mod_cast hone
  refine div_le_div_of_nonneg_left zero_le_one (by positivity) ?_
  linarith [unitsPerOne_cast_pos]

theorem inOnes_mul_unitsPerOne (n : Nat) : inOnes (n * unitsPerOne) = n := by
  rw [inOnes, Nat.cast_mul, mul_div_cancel_right₀ _ unitsPerOne_cast_pos.ne']

theorem inOnes_unitsPerOne : inOnes unitsPerOne = 1 := by
  rw [inOnes, div_self unitsPerOne_cast_pos.ne']

/-- A value and what it is rounded to: off by the last of 53 bits, or by half a unit. -/
def RoundsTo (exact rounded : ℚ) : Prop :=
  |rounded - exact| ≤ exact / 2 ^ 53 + halfUnit

theorem roundsTo_rounded (numerator : Nat) {denominator : Nat} (hpos : 0 < denominator) :
    RoundsTo (inOnes numerator / denominator) (inOnes (rounded numerator denominator)) := by
  obtain ⟨hlow, hhigh⟩ := rounded_near numerator hpos
  have hdenominator : (0 : ℚ) < denominator := Nat.cast_pos.mpr hpos
  have hone := unitsPerOne_cast_pos
  generalize rounded numerator denominator = result at hlow hhigh ⊢
  have hlow' : (2 ^ 53 * numerator : ℚ) ≤
      2 ^ 53 * (result * denominator) + (numerator + 2 ^ 52 * denominator) := by
    exact_mod_cast hlow
  have hhigh' : (2 ^ 53 * (result * denominator) : ℚ) ≤
      2 ^ 53 * numerator + (numerator + 2 ^ 52 * denominator) := by
    exact_mod_cast hhigh
  unfold RoundsTo inOnes halfUnit
  generalize (unitsPerOne : ℚ) = one at hone ⊢
  have hscale : 0 < 2 ^ 53 * (one * denominator) := by positivity
  have hdifference : result / one - numerator / one / denominator =
      (2 ^ 53 * (result * denominator) - 2 ^ 53 * numerator) /
        (2 ^ 53 * (one * denominator)) := by
    field_simp
  have hbound : numerator / one / denominator / 2 ^ 53 + 1 / (2 * one) =
      (numerator + 2 ^ 52 * denominator) / (2 ^ 53 * (one * denominator)) := by
    field_simp
  rw [hdifference, hbound, abs_div, abs_of_pos hscale]
  refine div_le_div_of_nonneg_right ?_ hscale.le
  rw [abs_le]
  constructor <;> linarith

end SchemaGuard.Binary64
