import SchemaGuard.Proofs.Constraint.Bounds
import SchemaGuard.Proofs.Order

/-! # Constraints apply to coerced values

A constraint that is read for a type applies to every value that coercion to the type yields: what
it tests is defined for the value. So its check fails for the relation that it tests. That relation
is the one that it states, except for numbers that are not compared and divided as they are: a
number beyond the bound may be rounded to the bound, and the quotient of a multiple may leave the
finite range or be taken of rounded numbers.
-/

namespace SchemaGuard

namespace Binary64

/-! ## Rounded units -/

/-- What a whole number of units is rounded to within the finite range. -/
def roundedUnits (units : Int) : Int :=
  let magnitude := min (rounded units.natAbs 1) largestMagnitude
  if units < 0 then -(magnitude : Int) else magnitude

theorem roundedUnits_mono {a b : Int} (hle : a ≤ b) : roundedUnits a ≤ roundedUnits b := by
  unfold roundedUnits
  dsimp only
  split_ifs with ha hb hb
  · have hrounded := rounded_mono (show b.natAbs ≤ a.natAbs by omega) 1
    omega
  · omega
  · omega
  · have hrounded := rounded_mono (show a.natAbs ≤ b.natAbs by omega) 1
    omega

theorem roundedUnits_units (x : Binary64) : roundedUnits x.units = x.units := by
  have hmagnitude : min (rounded x.units.natAbs 1) largestMagnitude = x.magnitude := by
    rw [natAbs_units, rounded_magnitude, Nat.min_eq_left x.magnitude_le]
  unfold roundedUnits
  dsimp only
  rw [hmagnitude, ← natAbs_units]
  split <;> omega

theorem roundedUnits_ofInt (i : Int) : roundedUnits (i * unitsPerOne) = (ofInt i).units := by
  have hone : (0 : Int) < unitsPerOne := Int.natCast_pos.mpr unitsPerOne_pos
  have hsign : i * unitsPerOne < 0 ↔ i < 0 := by
    generalize (unitsPerOne : Int) = one at hone
    have hless := Int.mul_lt_mul_right (b := i) (c := 0) hone
    rwa [Int.zero_mul] at hless
  rw [units_ofInt, roundedUnits, nearest, Int.natAbs_mul, Int.natAbs_natCast]
  simp only [hsign]

theorem compare_mul_unitsPerOne (i j : Int) :
    compare (i * unitsPerOne) (j * unitsPerOne) = compare i j := by
  have hone : (0 : Int) < unitsPerOne := Int.natCast_pos.mpr unitsPerOne_pos
  rw [← cmp_eq_compare, ← cmp_eq_compare, cmp_mul_pos_right hone]

end Binary64

namespace Constraint

open Binary64

/-! ## Multiples of floating point numbers -/

theorem wholePart_mul_unitsPerOne (whole : Nat) : wholePart (whole * unitsPerOne) = whole := by
  apply wholePart_eq
  rw [inOnes_mul_unitsPerOne, sub_self, abs_zero]
  exact one_half_pos

/-- A whole number is the nearest whole number. -/
theorem units_wholeLike_of_dvd {q : Binary64} (hdvd : unitsPerOne ∣ q.magnitude) :
    (q.wholeLike q.roundAway).units = q.units := by
  obtain ⟨whole, hwhole⟩ := hdvd
  have hnearest : nearest (wholePart q.magnitude) = q.magnitude := by
    rw [nearest, hwhole, Nat.mul_comm unitsPerOne, wholePart_mul_unitsPerOne,
      Nat.mul_comm whole, ← hwhole, rounded_magnitude, Nat.min_eq_left q.magnitude_le]
  rw [units, magnitude_wholeLike, natAbs_roundAway, hnearest, units, wholeLike]

theorem isZero_of_div? {x y q : Binary64} (hq : x.div? y = some q) : y.isZero = false := by
  rw [← Bool.not_eq_true]
  intro hzero
  rw [div?, if_pos hzero] at hq
  cases hq

/-- The quotient of a multiple is a whole number. -/
theorem unitsPerOne_dvd_quotient {x y q : Binary64} (hdvd : y.units ∣ x.units)
    (hq : x.div? y = some q) : unitsPerOne ∣ q.magnitude := by
  have hzero := isZero_of_div? hq
  have hpos : 0 < y.magnitude := by
    rw [← natAbs_units, Int.natAbs_pos]
    exact fun hunits => Bool.false_ne_true (hzero.symm.trans (isZero_iff.mpr hunits))
  obtain ⟨k, hk⟩ := Int.natAbs_dvd_natAbs.mpr hdvd
  rw [natAbs_units, natAbs_units, Nat.mul_comm] at hk
  rw [div?, hzero, if_neg Bool.false_ne_true, hk] at hq
  rcases ofQuotient?_cases (x.negative != y.negative) (k * y.magnitude * unitsPerOne)
    y.magnitude with ⟨q', hq', -, hmagnitude⟩ | ⟨hnone, -⟩
  · cases hq.symm.trans hq'
    rw [hmagnitude]
    exact unitsPerOne_dvd_rounded k hpos
  · cases hq.symm.trans hnone

theorem tolerance_pos : 0 < tolerance.units := by
  have hsmall : 0 < tolerance.magnitude := by
    rw [tolerance_parts.2]
    decide +kernel
  rw [units, tolerance_parts.1]
  exact Int.natCast_pos.mpr hsmall

/-- A number is nearly a multiple of one that divides it, unless the quotient is not finite. -/
theorem nearlyMultiple_of_dvd {x y : Binary64} (hdvd : y.units ∣ x.units)
    (hfinite : x.div? y ≠ none) : nearlyMultiple x y = true := by
  obtain ⟨q, hq⟩ := Option.ne_none_iff_exists'.mp hfinite
  have hwhole := units_wholeLike_of_dvd (unitsPerOne_dvd_quotient hdvd hq)
  -- The quotient is its own nearest whole number, so nothing is left of it.
  have hdifference : q.sub? (q.wholeLike q.roundAway) =
      some (zero (q.negative && (q.wholeLike q.roundAway).neg.negative)) := by
    rw [sub?, add?, units_neg, hwhole]
    exact if_pos (Int.add_right_neg _)
  rw [nearlyMultiple, hq]
  dsimp only
  rw [hdifference]
  dsimp only
  rw [order, beq_iff_eq, compare_lt_iff_lt]
  exact tolerance_pos

end Constraint

/-! ## Numbers before rounding -/

namespace Value

/-- What a number amounts to before it is rounded, in units of the smallest positive number. -/
def units? : Value → Option Int
  | int i => some (i * Binary64.unitsPerOne)
  | float x => some x.units
  | _ => none

variable {value bound : Value} {x y : Binary64} {v u : Int}

theorem exists_float? (hv : value.units? = some v) : ∃ x, value.float? = some x := by
  cases value <;> cases hv <;> exact ⟨_, rfl⟩

theorem units_of_units? (hv : value.units? = some v) (hx : value.float? = some x) :
    x.units = Binary64.roundedUnits v := by
  cases value with
  | int i =>
      cases hv
      cases hx
      exact (Binary64.roundedUnits_ofInt i).symm
  | float y =>
      cases hv
      cases hx
      exact (Binary64.roundedUnits_units x).symm
  | _ => cases hv

/-- An integer beyond 53 bits, which rounding may change. -/
def Wide (value : Value) : Prop :=
  ∃ i, value = int i ∧ 2 ^ 53 < i.natAbs

/-- Rounding keeps every other number. -/
theorem wide_of_units?_ne (hx : value.float? = some x) (hne : value.units? ≠ some x.units) :
    value.Wide := by
  cases value with
  | int i =>
      refine ⟨i, rfl, Nat.lt_of_not_le ?_⟩
      intro hle
      cases hx
      exact hne (congrArg some (Binary64.units_ofInt_of_le hle).symm)
  | float y =>
      cases hx
      exact absurd rfl hne
  | _ => cases hx

theorem exists_order? (hx : value.float? = some x) (hy : bound.float? = some y) :
    ∃ order, value.order? bound = some order := by
  rw [order?_numbers hx hy]
  rcases numberOrder?_cases hx hy with ⟨i, j, -, -, horder⟩ | ⟨-, horder⟩
  · exact ⟨_, horder⟩
  · exact ⟨_, horder⟩

/-- Two numbers that are compared after rounding, which makes them one number. -/
def RoundedAlike (value bound : Value) : Prop :=
  (value.int64? = none ∨ bound.int64? = none) ∧
    ∃ x y, value.float? = some x ∧ bound.float? = some y ∧ x.units = y.units

/-- Of two different numbers that rounding makes one, one is an integer beyond 53 bits. -/
theorem wide_of_roundedAlike (hv : value.units? = some v) (hu : bound.units? = some u)
    (hne : v ≠ u) (halike : value.RoundedAlike bound) : value.Wide ∨ bound.Wide := by
  obtain ⟨-, x, y, hx, hy, hunits⟩ := halike
  by_cases hexact : value.units? = some x.units
  · right
    apply wide_of_units?_ne hy
    intro hkept
    cases hv.symm.trans hexact
    cases hu.symm.trans hkept
    exact hne hunits
  · exact .inl (wide_of_units?_ne hx hexact)

theorem order?_of_roundedAlike (halike : value.RoundedAlike bound) :
    value.order? bound = some .eq := by
  obtain ⟨hrounded, x, y, hx, hy, hunits⟩ := halike
  rw [order?_numbers hx hy]
  exact numberOrder?_eq_of_units hx hy hrounded hunits

/-- Numbers are compared as they are, unless rounding makes them one. -/
theorem order?_of_not_roundedAlike (hv : value.units? = some v) (hu : bound.units? = some u)
    (happart : ¬ value.RoundedAlike bound) : value.order? bound = some (compare v u) := by
  obtain ⟨x, hx⟩ := exists_float? hv
  obtain ⟨y, hy⟩ := exists_float? hu
  rw [order?_numbers hx hy]
  by_cases hunits : x.units = y.units
  · rcases numberOrder?_cases hx hy with ⟨i, j, hi, hj, horder⟩ | ⟨hrounded, -⟩
    · cases eq_int_of_int64? hi
      cases eq_int_of_int64? hj
      cases hv
      cases hu
      rw [horder, Binary64.compare_mul_unitsPerOne]
    · exact absurd ⟨hrounded, x, y, hx, hy, hunits⟩ happart
  · rw [numberOrder?_of_units_ne hx hy hunits]
    rw [units_of_units? hv hx, units_of_units? hu hy] at hunits ⊢
    congr 1
    rcases Int.lt_trichotomy v u with hlt | rfl | hgt
    · have hle := Binary64.roundedUnits_mono (Int.le_of_lt hlt)
      rw [compare_lt_iff_lt.mpr hlt, compare_lt_iff_lt.mpr (lt_of_le_of_ne hle hunits)]
    · exact absurd rfl hunits
    · have hle := Binary64.roundedUnits_mono (Int.le_of_lt hgt)
      rw [compare_gt_iff_gt.mpr hgt, compare_gt_iff_gt.mpr (lt_of_le_of_ne hle (Ne.symm hunits))]

end Value

/-- Coerced texts, lists and sets have a size. -/
theorem LeafType.size?_of_coerce? {type : LeafType} {given value : Value}
    (htype : Constraint.bearsLength type = true) (hvalue : type.coerce? given = some value) :
    ∃ size, Constraint.size? value = some size := by
  cases type with
  | scalar type =>
      cases type with
      | text =>
          obtain ⟨s, -, rfl⟩ := Option.map_eq_some_iff.mp hvalue
          exact ⟨_, rfl⟩
      | _ => cases htype
  | list | set =>
      cases given with
      | list items =>
          cases hvalue
          exact ⟨_, rfl⟩
      | _ => cases hvalue

namespace Constraint

/-! ## What a constraint states of a value -/

/-- What a constraint tests is defined for a value. -/
def Applies (constraint : Constraint) (value : Value) : Prop :=
  match constraint with
  | atLeast bound | above bound | atMost bound | below bound =>
      ∃ order, value.order? bound = some order
  | multipleOf factor =>
      ∃ x y, value.float? = some x ∧ factor.float? = some y ∧ y.isZero = false
  | minLength _ | maxLength _ | minItems _ | maxItems _ => ∃ n, size? value = some n
  | pattern _ => ∃ s, value.str? = some s

/-- A value is as a constraint states. Numbers are taken as they are, without rounding. -/
def Satisfied (constraint : Constraint) (value : Value) : Prop :=
  match constraint with
  | atLeast bound => ∃ v u, value.units? = some v ∧ bound.units? = some u ∧ u ≤ v
  | above bound => ∃ v u, value.units? = some v ∧ bound.units? = some u ∧ u < v
  | atMost bound => ∃ v u, value.units? = some v ∧ bound.units? = some u ∧ v ≤ u
  | below bound => ∃ v u, value.units? = some v ∧ bound.units? = some u ∧ v < u
  | multipleOf factor => ∃ v u, value.units? = some v ∧ factor.units? = some u ∧ u ∣ v
  | minLength size | minItems size => ∃ n, size? value = some n ∧ size ≤ n
  | maxLength size | maxItems size => ∃ n, size? value = some n ∧ n ≤ size
  | pattern p => ∃ s, value.str? = some s ∧ p.occursIn s = true

/-- A quotient that does not tell a multiple: it is not finite, or taken of rounded numbers and not
nearly whole. -/
def QuotientFails (value factor : Value) : Prop :=
  (value.int64? = none ∨ factor.int64? = none) ∧
    ∃ x y, value.float? = some x ∧ factor.float? = some y ∧
      (x.div? y = none ∨ (value.units? ≠ some x.units ∨ factor.units? ≠ some y.units) ∧
        nearlyMultiple x y = false)

/-- Rounding keeps a value from passing a constraint: it makes the value equal to a bound beyond
which it has to be, or spoils the quotient. -/
def Blurred (constraint : Constraint) (value : Value) : Prop :=
  match constraint with
  | above bound | below bound => value.RoundedAlike bound
  | multipleOf factor => QuotientFails value factor
  | atLeast _ | atMost _ | minLength _ | maxLength _ | minItems _ | maxItems _ | pattern _ => False

variable {value bound factor raw : Value} {v u : Int} {x y : Binary64} {constraint : Constraint}

/-! ## Checks of satisfied constraints -/

/-- A comparison that the numbers pass fails just if rounding makes them equal and equal numbers
fail. -/
theorem order?_any_eq_false_iff {accepts : Ordering → Bool} (hv : value.units? = some v)
    (hu : bound.units? = some u) (hpasses : accepts (compare v u) = true) :
    (value.order? bound).any accepts = false ↔
      value.RoundedAlike bound ∧ accepts .eq = false := by
  by_cases halike : value.RoundedAlike bound
  · rw [Value.order?_of_roundedAlike halike, Option.any_some, and_iff_right halike]
  · rw [Value.order?_of_not_roundedAlike hv hu halike, Option.any_some, hpasses]
    exact iff_of_false Bool.noConfusion fun hboth => halike hboth.1

theorem isMultiple_eq_nearlyMultiple (hx : value.float? = some x) (hy : factor.float? = some y)
    (hrounded : value.int64? = none ∨ factor.int64? = none) :
    isMultiple value factor = nearlyMultiple x y := by
  unfold isMultiple
  split
  next i j hi hj =>
    rcases hrounded with hnone | hnone
    · cases hnone.symm.trans hi
    · cases hnone.symm.trans hj
  next => rw [hx, hy]

theorem nearlyMultiple_of_div?_eq_none (hnone : x.div? y = none) : nearlyMultiple x y = false := by
  rw [nearlyMultiple, hnone]

/-- The multiple of a factor fails just if the quotient does. -/
theorem isMultiple_eq_false_iff (hv : value.units? = some v) (hu : factor.units? = some u)
    (hdvd : u ∣ v) (hy : factor.float? = some y) (hzero : y.isZero = false) :
    isMultiple value factor = false ↔ QuotientFails value factor := by
  obtain ⟨x, hx⟩ := Value.exists_float? hv
  by_cases hrounded : value.int64? = none ∨ factor.int64? = none
  · rw [isMultiple_eq_nearlyMultiple hx hy hrounded]
    constructor
    · intro hfails
      refine ⟨hrounded, x, y, hx, hy, ?_⟩
      by_cases hexact : value.units? = some x.units ∧ factor.units? = some y.units
      · -- The numbers are divided as they are, so only the quotient can be lost.
        left
        by_contra hfinite
        cases hv.symm.trans hexact.1
        cases hu.symm.trans hexact.2
        rw [nearlyMultiple_of_dvd hdvd hfinite] at hfails
        cases hfails
      · exact .inr ⟨not_and_or.mp hexact, hfails⟩
    · rintro ⟨-, x', y', hx', hy', hquotient⟩
      cases hx.symm.trans hx'
      cases hy.symm.trans hy'
      rcases hquotient with hnone | ⟨-, hfails⟩
      · exact nearlyMultiple_of_div?_eq_none hnone
      · exact hfails
  · refine iff_of_false ?_ fun hfails => hrounded hfails.1
    obtain ⟨hvalue, hfactor⟩ := not_or.mp hrounded
    obtain ⟨i, hi⟩ := Option.ne_none_iff_exists'.mp hvalue
    obtain ⟨j, hj⟩ := Option.ne_none_iff_exists'.mp hfactor
    obtain ⟨rfl, hirange⟩ := Value.int64?_eq_some hi
    obtain ⟨rfl, hjrange⟩ := Value.int64?_eq_some hj
    cases hv
    cases hu
    cases hy
    have hone : (Binary64.unitsPerOne : Int) ≠ 0 := by
      exact_mod_cast Binary64.unitsPerOne_pos.ne'
    have hne : j ≠ 0 := by simpa [Binary64.isZero_ofInt] using hzero
    rw [Bool.not_eq_false, isMultiple_int hirange hjrange hne]
    exact Int.dvd_of_mul_dvd_mul_right hone hdvd

/-- A constraint that a value satisfies fails just if rounding blurs it. -/
theorem holds_eq_false_iff (happlies : constraint.Applies value)
    (hsatisfied : constraint.Satisfied value) :
    constraint.holds value = false ↔ constraint.Blurred value := by
  cases constraint with
  | atLeast bound =>
      obtain ⟨v, u, hv, hu, hle⟩ := hsatisfied
      have hpasses : (compare v u != .lt) = true := by simpa [compare_ge_iff_ge] using hle
      rw [holds, order?_any_eq_false_iff hv hu hpasses, Blurred]
      simp
  | above bound =>
      obtain ⟨v, u, hv, hu, hlt⟩ := hsatisfied
      have hpasses : (compare v u == .gt) = true := by simpa [compare_gt_iff_gt] using hlt
      rw [holds, order?_any_eq_false_iff hv hu hpasses, Blurred]
      exact and_iff_left rfl
  | atMost bound =>
      obtain ⟨v, u, hv, hu, hle⟩ := hsatisfied
      have hpasses : (compare v u != .gt) = true := by simpa [compare_le_iff_le] using hle
      rw [holds, order?_any_eq_false_iff hv hu hpasses, Blurred]
      simp
  | below bound =>
      obtain ⟨v, u, hv, hu, hlt⟩ := hsatisfied
      have hpasses : (compare v u == .lt) = true := by simpa [compare_lt_iff_lt] using hlt
      rw [holds, order?_any_eq_false_iff hv hu hpasses, Blurred]
      exact and_iff_left rfl
  | multipleOf factor =>
      obtain ⟨v, u, hv, hu, hdvd⟩ := hsatisfied
      obtain ⟨x, y, -, hy, hzero⟩ := happlies
      exact isMultiple_eq_false_iff hv hu hdvd hy hzero
  | minLength size | minItems size | maxLength size | maxItems size =>
      obtain ⟨n, hn, hle⟩ := hsatisfied
      simp [holds, Blurred, hn, hle]
  | pattern p =>
      obtain ⟨s, hs, hoccurs⟩ := hsatisfied
      simp [holds, Blurred, hs, hoccurs]

/-- Only integers beyond 53 bits and quotients beyond the finite range blur a constraint. -/
theorem wide_of_blurred (hsatisfied : constraint.Satisfied value)
    (hblurred : constraint.Blurred value) :
    value.Wide ∨ constraint.bound.Wide ∨
      ∃ x y, value.float? = some x ∧ constraint.bound.float? = some y ∧ x.div? y = none := by
  cases constraint with
  | above bound | below bound =>
      obtain ⟨v, u, hv, hu, hlt⟩ := hsatisfied
      have hne : v ≠ u := by omega
      rcases Value.wide_of_roundedAlike hv hu hne hblurred with hvalue | hbound
      · exact .inl hvalue
      · exact .inr (.inl hbound)
  | multipleOf factor =>
      obtain ⟨-, x, y, hx, hy, hnone | ⟨hvalue | hfactor, -⟩⟩ := hblurred
      · exact .inr (.inr ⟨x, y, hx, hy, hnone⟩)
      · exact .inl (Value.wide_of_units?_ne hx hvalue)
      · exact .inr (.inl (Value.wide_of_units?_ne hy hfactor))
  | atLeast | atMost | minLength | maxLength | minItems | maxItems | pattern =>
      exact hblurred.elim

/-! ## Coerced values -/

variable {type : LeafType}

theorem exists_float?_of_coerce? (htype : type ∈ Rule.order.types)
    (hcoerce : type.coerce? raw = some value) : ∃ x, value.float? = some x := by
  simp only [Rule.types, List.mem_cons, List.not_mem_nil, or_false] at htype
  rcases htype with rfl | rfl
  · obtain ⟨i, -, rfl⟩ := Option.map_eq_some_iff.mp hcoerce
    exact ⟨_, rfl⟩
  · obtain ⟨x, -, rfl⟩ := Option.map_eq_some_iff.mp hcoerce
    exact ⟨_, rfl⟩

theorem exists_str?_of_coerce? (htype : type ∈ Rule.pattern.types)
    (hcoerce : type.coerce? raw = some value) : ∃ s, value.str? = some s := by
  obtain rfl := List.mem_singleton.mp htype
  obtain ⟨s, -, rfl⟩ := Option.map_eq_some_iff.mp hcoerce
  exact ⟨s, rfl⟩

/-- What is read for a type applies to what the type yields. -/
theorem applies_of_read {name : String} (hread : Constraint.read name bound type = .ok constraint)
    (hcoerce : type.coerce? raw = some value) : constraint.Applies value := by
  obtain ⟨rule, hrule, htype, htakes⟩ := valid_of_read hread
  obtain ⟨rfl, rfl⟩ := Prod.mk.inj (declaration_of_read hread)
  cases constraint with
  | atLeast bound | above bound | atMost bound | below bound =>
      cases hrule
      obtain ⟨x, hx⟩ := exists_float?_of_coerce? htype hcoerce
      obtain ⟨y, hy⟩ := htakes
      exact Value.exists_order? hx hy
  | multipleOf factor =>
      cases hrule
      obtain ⟨x, hx⟩ := exists_float?_of_coerce? htype hcoerce
      obtain ⟨y, hy, hzero⟩ := htakes
      exact ⟨x, y, hx, hy, hzero⟩
  | minLength size | maxLength size =>
      cases hrule
      exact LeafType.size?_of_coerce? (bearsLength_iff.mpr htype) hcoerce
  | minItems size | maxItems size =>
      -- Whatever has items has a length.
      cases hrule
      have hlength : type ∈ Rule.length.types := List.mem_cons_of_mem _ htype
      exact LeafType.size?_of_coerce? (bearsLength_iff.mpr hlength) hcoerce
  | pattern p =>
      cases hrule
      exact exists_str?_of_coerce? htype hcoerce

/-- Constraints that are read apply. What a constraint read for a type tests is defined for every
value that coercion to the type yields: its order to the bound, both numbers of a quotient, its
size, or its text. So a value that fails it is not as the constraint states, unless rounding blurs
the constraint: the value is beyond the bound and is compared as if it were equal to it, or it is a
multiple whose quotient is not finite or taken of rounded numbers. Without an integer beyond 53 bits
only a quotient beyond the finite range does so. -/
theorem accepted_constraint_applies {name : String}
    (hread : Constraint.read name bound type = .ok constraint)
    (hcoerce : type.coerce? raw = some value) :
    constraint.Applies value ∧
      (constraint.Satisfied value →
        (constraint.holds value = false ↔ constraint.Blurred value) ∧
        (constraint.Blurred value → value.Wide ∨ bound.Wide ∨
          ∃ x y, value.float? = some x ∧ bound.float? = some y ∧ x.div? y = none)) := by
  have happlies := applies_of_read hread hcoerce
  obtain ⟨-, rfl⟩ := Prod.mk.inj (declaration_of_read hread)
  exact ⟨happlies, fun hsatisfied =>
    ⟨holds_eq_false_iff happlies hsatisfied, wide_of_blurred hsatisfied⟩⟩

open Binary64 in
/-- The quotient of a large number by one half is not finite, so the number is not taken for a
multiple. -/
theorem large_number_not_multiple :
    let half : Value := .float ((ofDecimal? false 5 (-1)).getD (zero false))
    let large : Value := .float ((ofDecimal? false 1 308).getD (zero false))
    Constraint.read "multiple_of" half (.scalar .number) = .ok (multipleOf half) ∧
      (LeafType.scalar .number).coerce? large = some large ∧
      (multipleOf half).Applies large ∧ (multipleOf half).Satisfied large ∧
      (multipleOf half).holds large = false := by
  intro half large
  have hread : Constraint.read "multiple_of" half (.scalar .number) = .ok (multipleOf half) := by
    have hzero : ((ofDecimal? false 5 (-1)).getD (zero false)).isZero = false := by
      decide +kernel
    obtain ⟨constraint, hread⟩ := (read_settles "multiple_of" half (.scalar .number)).ok.mpr
      ⟨.factor, rfl, by decide, _, rfl, hzero⟩
    rw [hread, bound_of_readFactor hread]
  have hcoerce : (LeafType.scalar .number).coerce? large = some large := rfl
  have hsatisfied : (multipleOf half).Satisfied large := ⟨_, _, rfl, rfl, by decide +kernel⟩
  have hblurred : (multipleOf half).Blurred large :=
    ⟨.inl rfl, _, _, rfl, rfl, .inl (by decide +kernel)⟩
  obtain ⟨happlies, hchecks⟩ := accepted_constraint_applies hread hcoerce
  exact ⟨hread, hcoerce, happlies, hsatisfied, (hchecks hsatisfied).1.mpr hblurred⟩

end Constraint

end SchemaGuard
