import SchemaGuard.Function.Arguments
import SchemaGuard.Text.Search
import SchemaGuard.Value.Kind
import SchemaGuard.Value.Text

/-! # Functions on numbers and kinds

Absolute values and rounding, conversions between kinds of values, and the question of
what kind a value is.
-/

namespace SchemaGuard.Function

/-- The absolute value of a number. -/
def abs : List Value → Result
  | [value] =>
      match value.int64?, value.float? with
      | some i, _ =>
          match Int64Range.check? i.natAbs with
          | some i => .ok (.int i)
          | none => .error (.badArgument "abs" "integer overflow")
      | none, some x => .ok (.float x.abs)
      | none, none =>
          .error (.badArgument "abs" ("bad operand type '" ++ value.kindName ++ "'"))
  | args => miscounted "abs" args

/-- A power of ten whose exponent is a 32-bit signed integer; for any other exponent, one. -/
def powerOfTen? (digits : Int) : Option Binary64 :=
  let exponent := if -0x80000000 ≤ digits ∧ digits < 0x80000000 then digits else 0
  (Binary64.ofInt 10).power? exponent

/-- A number rounded to decimal places, a half going to the even neighbour. -/
def roundTo? (x : Binary64) (digits : Int) : Option Binary64 := do
  let factor ← powerOfTen? digits
  let scaled ← x.mul? factor
  (scaled.wholeLike scaled.roundEven).div? factor

/-- The whole number nearest to a number, or a number rounded to decimal places. -/
def roundWith (value : Value) (digits : Option Int) : Result :=
  match value.float?, digits with
  | none, _ => .error (.badArgument "round" "expected a number")
  | some x, none => .ok (.int (Int64Range.clamp x.roundEven))
  | some x, some digits => ofFinite (roundTo? x digits)

/-- Rounds a number. -/
def round : List Value → Result
  | [value] => roundWith value none
  | [value, digits] => roundWith value digits.integer?
  | args => miscounted "round" args

/-- The magnitude below which a floating point number converts to an integer. -/
def integerBound : Nat := 9200000000000000000

/-- Whether the magnitude of a number is below the bound for integers. -/
def isBelowIntegerBound (x : Binary64) : Bool :=
  x.magnitude < integerBound * Binary64.unitsPerOne

/-- The integer that a value converts to. -/
def integerFrom? : Value → Option Int
  | .bool b => some (if b then 1 else 0)
  | .str s => (Numeral.integer? (Text.trim s.toList)).bind Int64Range.check?
  | value =>
      match value.int64?, value.float? with
      | some i, _ => some i
      | none, some x => if isBelowIntegerBound x then some x.truncate else none
      | none, none => none

/-- Converts a value to an integer. -/
def int : List Value → Result
  | [] => .ok (.int 0)
  | [value] =>
      match integerFrom? value with
      | some i => .ok (.int i)
      | none => .error (.badArgument "int" ("invalid literal for int(): " ++ value.display))
  | args => miscounted "int" args

/-- The number that a value converts to. -/
def realFrom? : Value → Option Extended
  | .bool b => some (.finite (Binary64.ofInt (if b then 1 else 0)))
  | .str s => Numeral.real? (Text.trim s.toList)
  | value => value.float?.map .finite

/-- Converts a value to a floating point number. -/
def float : List Value → Result
  | [] => .ok (.float (Binary64.zero false))
  | [value] =>
      match realFrom? value with
      | some x => ofFinite x.finite?
      | none => .error (.badArgument "float" ("could not convert to float: " ++ value.display))
  | args => miscounted "float" args

/-- Converts a value to text. -/
def str : List Value → Result
  | [] => .ok (.str "")
  | [value] => .ok (.str value.display)
  | args => miscounted "str" args

/-- Converts a value to a truth value. -/
def bool : List Value → Result
  | [] => .ok (.bool false)
  | [value] => .ok (.bool value.truthy)
  | args => miscounted "bool" args

/-- Whether a value is of the kind that another value names. -/
def isOfKind (value name : Value) : Except CallError Bool :=
  match name with
  | .str name =>
      match value.hasKind? name with
      | some answer => .ok answer
      | none => .error (.badArgument "isinstance" ("unknown type '" ++ name ++ "'"))
  | _ => .error (.badArgument "isinstance" "second argument must be a type")

/-- Whether a value is of one of several kinds. Every name is looked up. -/
def isOfSomeKind (value : Value) : List Value → Except CallError Bool
  | [] => .ok false
  | name :: rest => do
      let first ← isOfKind value name
      let later ← isOfSomeKind value rest
      pure (first || later)

/-- Whether a value is of a kind, or of one of a list of kinds. -/
def isinstance : List Value → Result
  | [value, .list names] => (isOfSomeKind value names).map .bool
  | [value, name] => (isOfKind value name).map .bool
  | args => miscounted "isinstance" args

/-- The functions on numbers and kinds. -/
def numbers : List Function := [
  ⟨"isinstance", .exactly 2, isinstance⟩,
  ⟨"abs", .range 1 (some 1), abs⟩,
  ⟨"round", .range 1 (some 2), round⟩,
  ⟨"str", .range 0 (some 1), str⟩,
  ⟨"bool", .range 0 (some 1), bool⟩,
  ⟨"int", .range 0 (some 1), int⟩,
  ⟨"float", .range 0 (some 1), float⟩]

end SchemaGuard.Function
