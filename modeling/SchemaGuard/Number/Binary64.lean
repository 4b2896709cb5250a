/-! # Finite binary64 numbers

A number is a sign, a significand and a shift, and every number is a whole multiple
of the smallest positive one. Sums, products, quotients and remainders are computed
exactly on these multiples and rounded once, to the nearest number with ties to even.
A result that would not be finite is `none`.
-/

namespace SchemaGuard

/-- A finite number `± significand * 2 ^ shift` in units of the smallest positive number. The
significand has at most 53 bits, and exactly 53 unless the shift is zero. -/
structure Binary64 where
  negative : Bool
  significand : Nat
  shift : Nat
  significand_lt : significand < 0x20000000000000
  shift_le : shift ≤ 2045
  normal : shift = 0 ∨ 0x10000000000000 ≤ significand
deriving DecidableEq

namespace Binary64

/-- How many units of the smallest positive number make one. -/
def unitsPerOne : Nat := Nat.pow 2 1074

/-- The magnitude in units of the smallest positive number. -/
def magnitude (x : Binary64) : Nat :=
  x.significand * Nat.pow 2 x.shift

/-- The signed value in units of the smallest positive number. -/
def units (x : Binary64) : Int :=
  if x.negative then -(x.magnitude : Int) else x.magnitude

/-- The zero with a given sign. -/
def zero (negative : Bool) : Binary64 :=
  ⟨negative, 0, 0, by decide, by decide, .inl rfl⟩

instance : Inhabited Binary64 := ⟨zero false⟩

/-- The number with the given parts, if they are those of a finite number. -/
def ofParts? (negative : Bool) (significand shift : Nat) : Option Binary64 :=
  if h : significand < 0x20000000000000 ∧ shift ≤ 2045 ∧
      (shift = 0 ∨ 0x10000000000000 ≤ significand) then
    some ⟨negative, significand, shift, h.1, h.2.1, h.2.2⟩
  else
    none

/-- The finite number of largest magnitude. -/
def largest (negative : Bool) : Binary64 :=
  ⟨negative, 0x1fffffffffffff, 2045, by decide, by decide, .inr (by decide)⟩

/-- The quotient of two natural numbers rounded to the nearest, a half going to the even one. -/
def halfEven (numerator denominator : Nat) : Nat :=
  let floor := numerator / denominator
  let twice := 2 * (numerator % denominator)
  if twice < denominator then floor
  else if denominator < twice then floor + 1
  else if floor % 2 = 0 then floor
  else floor + 1

/-- The number nearest to a quotient of units, ties to even; `none` beyond the finite range. -/
def ofQuotient? (negative : Bool) (numerator denominator : Nat) : Option Binary64 :=
  let shift := Nat.log2 (numerator / denominator) - 52
  let significand := halfEven numerator (denominator * Nat.pow 2 shift)
  if significand = 0x20000000000000 then ofParts? negative 0x10000000000000 (shift + 1)
  else ofParts? negative significand shift

/-- The number nearest to a whole number of units. -/
def ofUnits? (units : Int) : Option Binary64 :=
  ofQuotient? (decide (units < 0)) units.natAbs 1

/-- The number nearest to an integer; one beyond the finite range gives the largest number. -/
def ofInt (i : Int) : Binary64 :=
  (ofUnits? (i * unitsPerOne)).getD (largest (decide (i < 0)))

/-- The number nearest to `± digits * 10 ^ exponent`; `none` beyond the finite range. -/
def ofDecimal? (negative : Bool) (digits : Nat) (exponent : Int) : Option Binary64 :=
  let size : Int := (Nat.log2 digits / 4 : Nat)
  if digits = 0 then some (zero negative)
  else if 400 < exponent then none
  else if exponent + 2 * size + 2 < -400 then some (zero negative)
  else match exponent with
    | .ofNat n => ofQuotient? negative (digits * Nat.pow 10 n * unitsPerOne) 1
    | .negSucc n => ofQuotient? negative (digits * unitsPerOne) (Nat.pow 10 (n + 1))

/-- The number with the other sign. -/
def neg (x : Binary64) : Binary64 :=
  { x with negative := !x.negative }

/-- The number without its sign. -/
def abs (x : Binary64) : Binary64 :=
  { x with negative := false }

/-- Whether the number is a zero of either sign. -/
def isZero (x : Binary64) : Bool :=
  x.significand == 0

/-- Numerical equality, under which both zeros agree. -/
def equal (x y : Binary64) : Bool :=
  x.units == y.units

/-- The numerical order. -/
def order (x y : Binary64) : Ordering :=
  compare x.units y.units

/-- The rounded sum; an exact zero is negative only when both terms are. -/
def add? (x y : Binary64) : Option Binary64 :=
  let sum := x.units + y.units
  if sum = 0 then some (zero (x.negative && y.negative)) else ofUnits? sum

/-- The rounded difference. -/
def sub? (x y : Binary64) : Option Binary64 :=
  add? x y.neg

/-- The rounded product. -/
def mul? (x y : Binary64) : Option Binary64 :=
  ofQuotient? (x.negative != y.negative) (x.magnitude * y.magnitude) unitsPerOne

/-- The rounded quotient; a zero divisor has no finite quotient. -/
def div? (x y : Binary64) : Option Binary64 :=
  if y.isZero then none
  else ofQuotient? (x.negative != y.negative) (x.magnitude * unitsPerOne) y.magnitude

/-- The greatest whole number that is not above the number. -/
def floor (x : Binary64) : Int :=
  Int.fdiv x.units unitsPerOne

/-- The number without its fraction. -/
def truncate (x : Binary64) : Int :=
  Int.tdiv x.units unitsPerOne

/-- Whether the number has no fraction. -/
def isWhole (x : Binary64) : Bool :=
  x.magnitude % unitsPerOne == 0

/-- The nearest whole number, a half going to the even one. -/
def roundEven (x : Binary64) : Int :=
  let whole : Int := halfEven x.magnitude unitsPerOne
  if x.negative then -whole else whole

/-- The nearest whole number, a half going away from zero. -/
def roundAway (x : Binary64) : Int :=
  let whole : Int := ((2 * x.magnitude + unitsPerOne) / (2 * unitsPerOne) : Nat)
  if x.negative then -whole else whole

/-- A whole number with the sign that a rounding of `x` keeps even at zero. -/
def wholeLike (x : Binary64) (whole : Int) : Binary64 :=
  { ofInt whole with negative := x.negative }

/-- The remainder of truncated division, which is exact and has the sign of the dividend. -/
def remainder? (x y : Binary64) : Option Binary64 :=
  if y.isZero then none else ofQuotient? x.negative (x.magnitude % y.magnitude) 1

/-- The remainder of floored division: a nonzero one has the sign of the divisor. -/
def floorMod? (x y : Binary64) : Option Binary64 := do
  let r ← remainder? x y
  if !r.isZero && r.negative != y.negative then add? r y else pure r

/-- The rounded quotient rounded down to a whole number. -/
def floorDiv? (x y : Binary64) : Option Binary64 := do
  let q ← div? x y
  pure (q.wholeLike q.floor)

/-- Repeated squaring with a rounding after every product. The first argument bounds the
number of squarings. -/
def powerFrom : Nat → Binary64 → Binary64 → Nat → Option Binary64
  | 0, result, _, _ => some result
  | fuel + 1, result, base, exponent => do
      let result ← if exponent % 2 = 1 then mul? result base else pure result
      if exponent / 2 = 0 then pure result
      else powerFrom fuel result (← mul? base base) (exponent / 2)

/-- A power with an integer exponent; a negative exponent takes the reciprocal at the end. -/
def power? (base : Binary64) (exponent : Int) : Option Binary64 := do
  let result ← powerFrom (Nat.log2 exponent.natAbs + 1) (ofInt 1) base exponent.natAbs
  if exponent < 0 then div? (ofInt 1) result else pure result

end Binary64

end SchemaGuard
