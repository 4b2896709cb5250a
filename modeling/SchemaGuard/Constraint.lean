import SchemaGuard.LeafType
import SchemaGuard.Pattern.Compiled
import SchemaGuard.Value.Text

/-! # Constraints

Named conditions on the value of a field, checked after coercion. A constraint is read for
the type of its field, so a bound on numbers is never put on text, nor a length on numbers.
-/

namespace SchemaGuard

/-- A condition on a value. -/
inductive Constraint where
  | atLeast (bound : Value)
  | above (bound : Value)
  | atMost (bound : Value)
  | below (bound : Value)
  | multipleOf (factor : Value)
  | minLength (size : Nat)
  | maxLength (size : Nat)
  | minItems (size : Nat)
  | maxItems (size : Nat)
  | pattern (pattern : Pattern.Compiled)

/-- Why a declared constraint is refused. -/
inductive ConstraintFault where
  | inapplicable (name : String) (type : LeafType)
  | notANumber (name : String) (bound : Value)
  | notASize (name : String) (bound : Value)
  | zeroFactor
  | patternNotText
  | badPattern (source : String) (refusal : Pattern.Refusal)
  | unknown (name : String)

/-- The wording of a refusal. -/
def ConstraintFault.message : ConstraintFault → String
  | inapplicable name type => "Constraint '" ++ name ++ "' does not apply to type " ++ type.name
  | notANumber name bound =>
      "Constraint '" ++ name ++ "' expects a number, got " ++ bound.display
  | notASize name bound =>
      "Constraint '" ++ name ++ "' expects a non-negative integer, got " ++ bound.display
  | zeroFactor => "Constraint 'multiple_of' must not be zero"
  | patternNotText => "Constraint 'pattern' expects a string"
  | badPattern source refusal => "Invalid pattern '" ++ source ++ "': " ++ refusal.message
  | unknown name => "Unknown constraint '" ++ name ++ "'"

namespace Constraint

/-- Whether a type has numbers as its values. -/
def bearsBounds : LeafType → Bool
  | .scalar type => type.isNumeric
  | _ => false

/-- Whether the values of a type have a length. -/
def bearsLength : LeafType → Bool
  | .scalar .text | .list | .set => true
  | .scalar _ => false

/-- A bound, which is a number on a type of numbers. -/
def readBound (name : String) (type : LeafType) (bound : Value) : Except ConstraintFault Value :=
  if !bearsBounds type then .error (.inapplicable name type)
  else match bound.float? with
    | some _ => .ok bound
    | none => .error (.notANumber name bound)

/-- The sizes that a constraint can ask for. -/
def sizeLimit : Nat := 0x10000000000000000

/-- A size, which is a natural number, on a type of which `applies` tells whether it has one. -/
def readSize (name : String) (type : LeafType) (applies : Bool) (bound : Value) :
    Except ConstraintFault Nat :=
  if !applies then .error (.inapplicable name type)
  else match bound with
    | .int (.ofNat size) =>
        if size < sizeLimit then .ok size else .error (.notASize name bound)
    | _ => .error (.notASize name bound)

/-- A factor, which is a number other than zero. -/
def readFactor (name : String) (type : LeafType) (bound : Value) :
    Except ConstraintFault Constraint := do
  let factor ← readBound name type bound
  if factor.float?.any Binary64.isZero then .error .zeroFactor else .ok (multipleOf factor)

/-- A pattern for text. -/
def readPattern (name : String) (type : LeafType) (bound : Value) :
    Except ConstraintFault Constraint :=
  if type ≠ .scalar .text then .error (.inapplicable name type)
  else match bound with
    | .str source =>
        match Pattern.compile source with
        | .ok compiled => .ok (pattern compiled)
        | .error refusal => .error (.badPattern source refusal)
    | _ => .error .patternNotText

/-- The constraint that a name and a bound declare for a field of a type. -/
def read (name : String) (bound : Value) (type : LeafType) : Except ConstraintFault Constraint :=
  match name with
  | "ge" => (readBound name type bound).map atLeast
  | "gt" => (readBound name type bound).map above
  | "le" => (readBound name type bound).map atMost
  | "lt" => (readBound name type bound).map below
  | "multiple_of" => readFactor name type bound
  | "min_length" => (readSize name type (bearsLength type) bound).map minLength
  | "max_length" => (readSize name type (bearsLength type) bound).map maxLength
  | "min_items" => (readSize name type type.isCollection bound).map minItems
  | "max_items" => (readSize name type type.isCollection bound).map maxItems
  | "pattern" => readPattern name type bound
  | _ => .error (.unknown name)

/-- The name by which a constraint is declared. -/
def name : Constraint → String
  | atLeast _ => "ge"
  | above _ => "gt"
  | atMost _ => "le"
  | below _ => "lt"
  | multipleOf _ => "multiple_of"
  | minLength _ => "min_length"
  | maxLength _ => "max_length"
  | minItems _ => "min_items"
  | maxItems _ => "max_items"
  | pattern _ => "pattern"

/-- The number of characters of a text or of items of a list. -/
def size? : Value → Option Nat
  | .str s => some s.length
  | .list items => some items.length
  | _ => none

/-- The distance from a whole number up to which a quotient counts as whole: `10 ^ -9`. -/
def tolerance : Binary64 :=
  (Binary64.ofDecimal? false 1 (-9)).getD (Binary64.zero false)

/-- Whether a floating point number is, up to the tolerance, a multiple of another one. -/
def nearlyMultiple (x factor : Binary64) : Bool :=
  match x.div? factor with
  | none => false
  | some quotient =>
      match quotient.sub? (quotient.wholeLike quotient.roundAway) with
      | some difference => difference.abs.order tolerance == .lt
      | none => false

/-- Whether a number is a multiple of a factor: exactly for 64-bit integers, and up to the
tolerance for floating point numbers. -/
def isMultiple (value factor : Value) : Bool :=
  match value.int64?, factor.int64? with
  | some i, some j => if j = 0 then false else Int.tmod i j == 0
  | _, _ =>
      match value.float?, factor.float? with
      | some x, some y => nearlyMultiple x y
      | _, _ => false

/-- Whether a value satisfies a constraint. -/
def holds (constraint : Constraint) (value : Value) : Bool :=
  match constraint with
  | atLeast bound => (value.order? bound).any (· != .lt)
  | above bound => (value.order? bound).any (· == .gt)
  | atMost bound => (value.order? bound).any (· != .gt)
  | below bound => (value.order? bound).any (· == .lt)
  | multipleOf factor => isMultiple value factor
  | minLength size | minItems size => (size? value).any (fun n => decide (size ≤ n))
  | maxLength size | maxItems size => (size? value).any (fun n => decide (n ≤ size))
  | pattern p => value.str?.any p.occursIn

/-- What has a length, and in which units, in messages. -/
def sizeWords : Value → String × String
  | .str _ => ("String", "characters")
  | _ => ("List", "items")

/-- What is said of a value that violates a constraint. -/
def complaint (constraint : Constraint) (value : Value) : String :=
  let (noun, unit) := sizeWords value
  match constraint with
  | atLeast bound => "Input should be greater than or equal to " ++ bound.display
  | above bound => "Input should be greater than " ++ bound.display
  | atMost bound => "Input should be less than or equal to " ++ bound.display
  | below bound => "Input should be less than " ++ bound.display
  | multipleOf factor => "Input should be a multiple of " ++ factor.display
  | minLength size | minItems size =>
      noun ++ " should have at least " ++ toString size ++ " " ++ unit
  | maxLength size | maxItems size =>
      noun ++ " should have at most " ++ toString size ++ " " ++ unit
  | pattern p => "String should match pattern '" ++ p.source ++ "'"

/-- The keyword of a JSON schema that states a constraint on a field of a type. -/
def keyword (constraint : Constraint) (type : LeafType) : String × Value :=
  match constraint with
  | atLeast bound => ("minimum", bound)
  | above bound => ("exclusiveMinimum", bound)
  | atMost bound => ("maximum", bound)
  | below bound => ("exclusiveMaximum", bound)
  | multipleOf factor => ("multipleOf", factor)
  | minLength size => (if type.isCollection then "minItems" else "minLength", .ofNat size)
  | maxLength size => (if type.isCollection then "maxItems" else "maxLength", .ofNat size)
  | minItems size => ("minItems", .ofNat size)
  | maxItems size => ("maxItems", .ofNat size)
  | pattern p => ("pattern", .str p.source)

end Constraint

end SchemaGuard
