import SchemaGuard.Number.Binary64

/-! # Numerals

Reading integers and real numbers from decimal text. A real numeral is a sign, digits
with an optional point, and an optional exponent, or one of the words for infinity and
for an undefined value. A numeral beyond the finite range reads as an infinity.
-/

namespace SchemaGuard

/-- What a real numeral denotes. -/
inductive Extended where
  | finite (x : Binary64)
  | infinite (negative : Bool)
  | undefinedValue
deriving DecidableEq

namespace Extended

/-- The finite number that is denoted, if there is one. -/
def finite? : Extended → Option Binary64
  | .finite x => some x
  | _ => none

/-- The number nearest to `± digits * 10 ^ exponent`, or an infinity. -/
def ofDecimal (negative : Bool) (digits : Nat) (exponent : Int) : Extended :=
  match Binary64.ofDecimal? negative digits exponent with
  | some x => .finite x
  | none => .infinite negative

end Extended

namespace Numeral

/-- The value of a digit. -/
def digitValue (c : Char) : Nat :=
  c.toNat - '0'.toNat

/-- The value of a run of decimal digits. -/
def natural (digits : List Char) : Nat :=
  digits.foldl (fun total c => 10 * total + digitValue c) 0

/-- Splits off a sign; `true` is a minus. -/
def splitSign : List Char → Bool × List Char
  | '-' :: rest => (true, rest)
  | '+' :: rest => (false, rest)
  | chars => (false, chars)

/-- An integer with an optional sign. -/
def integer? (chars : List Char) : Option Int :=
  let (negative, digits) := splitSign chars
  if digits ≠ [] ∧ digits.all Char.isDigit then
    some (if negative then -(natural digits : Int) else natural digits)
  else
    none

/-- The exponent that may follow the digits: nothing, or a mark and an integer. -/
def exponent? : List Char → Option Int
  | [] => some 0
  | c :: rest => if c = 'e' ∨ c = 'E' then integer? rest else none

/-- Digits, an optional point with more digits, and an optional exponent. -/
def positional? (negative : Bool) (chars : List Char) : Option Extended := do
  let whole := chars.takeWhile Char.isDigit
  let afterWhole := chars.dropWhile Char.isDigit
  let (fraction, tail) := match afterWhole with
    | '.' :: rest => (rest.takeWhile Char.isDigit, rest.dropWhile Char.isDigit)
    | _ => ([], afterWhole)
  if whole = [] ∧ fraction = [] then none
  else
    let exponent ← exponent? tail
    pure (Extended.ofDecimal negative (natural (whole ++ fraction)) (exponent - fraction.length))

/-- A real numeral. -/
def real? (chars : List Char) : Option Extended :=
  let (negative, body) := splitSign chars
  let word := String.ofList (body.map Char.toLower)
  if word = "inf" ∨ word = "infinity" then some (.infinite negative)
  else if word = "nan" then some .undefinedValue
  else positional? negative body

end Numeral

namespace Int64Range

/-- Whether an integer has a signed 64-bit representation. -/
def holds (i : Int) : Bool :=
  decide (-0x8000000000000000 ≤ i) && decide (i < 0x8000000000000000)

/-- The integer if it has a signed 64-bit representation. -/
def check? (i : Int) : Option Int :=
  if holds i then some i else none

/-- The nearest integer with a signed 64-bit representation. -/
def clamp (i : Int) : Int :=
  max (-0x8000000000000000) (min i 0x7fffffffffffffff)

end Int64Range

end SchemaGuard
