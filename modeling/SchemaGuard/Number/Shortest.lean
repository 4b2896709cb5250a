import SchemaGuard.Number.Binary64

/-! # Shortest decimals

The shortest decimal of a number has the fewest digits among those that round to the
number, and of these it is the nearest. Three layouts write it: positional text, text
with an exponent for very large and very small numbers, and text with one decimal
place for whole numbers.
-/

namespace SchemaGuard

/-- The value `digits * 10 ^ exponent`. -/
structure Decimal where
  digits : Nat
  exponent : Int
deriving DecidableEq, Repr

namespace Decimal

/-- The number of decimal digits of a natural number; zero has one. -/
def digitCount (n : Nat) : Nat :=
  (Nat.toDigits 10 n).length

/-- Moves final zeros of the digits into the exponent; at most `fuel` of them. -/
def strip : Nat → Nat → Int → Decimal
  | 0, digits, exponent => ⟨digits, exponent⟩
  | fuel + 1, digits, exponent =>
      if digits % 10 = 0 ∧ digits ≠ 0 then strip fuel (digits / 10) (exponent + 1)
      else ⟨digits, exponent⟩

/-- The exponent of the first digit: the value is at least one and below ten times its power. -/
def leadingExponent (d : Decimal) : Int :=
  d.exponent + digitCount d.digits - 1

end Decimal

namespace Binary64

/-- The exponent of ten of the leading digit of a positive magnitude. -/
def decimalExponent (magnitude : Nat) : Int :=
  if unitsPerOne ≤ magnitude then
    (Decimal.digitCount (magnitude / unitsPerOne) : Int) - 1
  else
    -(Decimal.digitCount ((unitsPerOne - 1) / magnitude) : Int)

/-- The ends of the interval that rounds to a number, in quarters of a unit. -/
def roundingInterval (x : Binary64) : Nat × Nat :=
  let step := Nat.pow 2 x.shift
  let below := if x.significand = 0x10000000000000 ∧ 0 < x.shift then step else 2 * step
  (4 * x.magnitude - below, 4 * x.magnitude + 2 * step)

/-- The decimal on the grid of `10 ^ exponent` that rounds to the number, the nearer of two;
of two equally near the larger. -/
def onGrid? (x : Binary64) (exponent : Int) : Option Decimal :=
  -- A grid point `c` and the number are compared as `c * scale` and `target`.
  let scale := 4 * unitsPerOne * Nat.pow 10 exponent.toNat
  let factor := Nat.pow 10 (-exponent).toNat
  let target := 4 * x.magnitude * factor
  let (low, high) := x.roundingInterval
  let inside (c : Nat) : Bool :=
    if x.significand % 2 = 0 then low * factor ≤ c * scale ∧ c * scale ≤ high * factor
    else low * factor < c * scale ∧ c * scale < high * factor
  let down := target / scale
  let up := down + 1
  if inside up ∧ (¬ inside down ∨ up * scale - target ≤ target - down * scale) then
    some ⟨up, exponent⟩
  else if inside down then some ⟨down, exponent⟩
  else none

/-- The shortest decimal of the magnitude of a number. -/
def shortest (x : Binary64) : Decimal :=
  if x.isZero then ⟨0, 0⟩
  else
    let leading := decimalExponent x.magnitude
    let found := (List.range 18).findSome? (fun (n : Nat) => onGrid? x (leading - n))
    let decimal := found.getD ⟨x.magnitude, 0⟩
    Decimal.strip 20 decimal.digits decimal.exponent

/-- The digits as text. -/
def digitText (d : Decimal) : List Char :=
  Nat.toDigits 10 d.digits

/-- The minus sign of a negative number. -/
def signText (x : Binary64) : String :=
  if x.negative then "-" else ""

/-- Positional text of a decimal, with a point only when there is a fraction. -/
def positional (d : Decimal) : List Char :=
  let digits := digitText d
  if 0 ≤ d.exponent then digits ++ List.replicate d.exponent.toNat '0'
  else
    let places := (-d.exponent).toNat
    let padded := List.replicate (places + 1 - digits.length) '0' ++ digits
    let whole := padded.length - places
    padded.take whole ++ '.' :: padded.drop whole

/-- The shortest digits without exponent and without a superfluous fraction. -/
def plainText (x : Binary64) : String :=
  x.signText ++ String.ofList (positional x.shortest)

/-- The shortest digits with at least one decimal place. -/
def placedText (x : Binary64) : String :=
  if x.isWhole then x.plainText ++ ".0" else x.plainText

/-- The shortest digits as they are quoted in messages about tokens: positional from `1e-4`
to below `1e16`, else with an exponent. -/
def literalText (x : Binary64) : String :=
  let d := x.shortest
  let leading := d.leadingExponent
  if x.isZero || (decide (-4 ≤ leading) && decide (leading < 16)) then x.placedText
  else
    let mantissa := match digitText d with
      | first :: second :: rest => first :: '.' :: second :: rest
      | single => single
    x.signText ++ String.ofList mantissa ++ "e" ++ toString leading

/-- The text of a number as a value: one decimal place for a whole number below `1e16`,
the shortest positional digits for any other. -/
def valueText (x : Binary64) : String :=
  if x.isWhole && x.magnitude < 10000000000000000 * unitsPerOne then x.placedText else x.plainText

end Binary64

end SchemaGuard
