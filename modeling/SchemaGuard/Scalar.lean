import SchemaGuard.Calendar
import SchemaGuard.Text.Search
import SchemaGuard.Value

/-! # Scalar types

The types of single values. Coercion is lax: it reads numbers and truth values from text
and brings dates into their written form, and what it yields it yields again unchanged.
-/

namespace SchemaGuard

/-- The type of a single value. -/
inductive ScalarType where
  | text
  | integer
  | number
  | boolean
  | date
  | moment
  | any
deriving DecidableEq, Repr

namespace ScalarType

/-- The type that a name stands for. -/
def ofName? : String → Option ScalarType
  | "str" | "string" => some text
  | "int" | "integer" => some integer
  | "float" | "number" => some number
  | "bool" | "boolean" => some boolean
  | "date" => some date
  | "datetime" => some moment
  | "any" => some any
  | _ => none

/-- The name of a type, under which validators ask for it. -/
def name : ScalarType → String
  | text => "str"
  | integer => "int"
  | number => "float"
  | boolean => "bool"
  | date => "date"
  | moment => "datetime"
  | any => "any"

/-- Whether the values of a type are numbers. -/
def isNumeric : ScalarType → Bool
  | integer | number => true
  | _ => false

/-- The description of a type in a JSON schema. -/
def jsonSchema : ScalarType → Table Value
  | text => [("type", .str "string")]
  | integer => [("type", .str "integer")]
  | number => [("type", .str "number")]
  | boolean => [("type", .str "boolean")]
  | date => [("type", .str "string"), ("format", .str "date")]
  | moment => [("type", .str "string"), ("format", .str "date-time")]
  | any => []

/-- The magnitude at which a floating point number is too large to be taken as an integer. -/
def integerBound : Nat := 9200000000000000000

/-- The integer that a value stands for: a 64-bit integer, a floating point number without a
fraction, or the decimal text of an integer with blanks around it. -/
def readInteger? : Value → Option Int
  | .int i => Int64Range.check? i
  | .float x =>
      if x.isWhole ∧ x.magnitude < integerBound * Binary64.unitsPerOne then some x.truncate
      else none
  | .str s => (Numeral.integer? (Text.trim s.toList)).bind Int64Range.check?
  | _ => none

/-- The floating point number that a value stands for. -/
def readNumber? : Value → Option Binary64
  | .int i => some (Binary64.ofInt i)
  | .float x => some x
  | .str s => (Numeral.real? (Text.trim s.toList)).bind Extended.finite?
  | _ => none

/-- Words that stand for a truth value. -/
def readWord? : String → Option Bool
  | "true" | "yes" | "on" | "1" => some true
  | "false" | "no" | "off" | "0" => some false
  | _ => none

/-- The truth value that a value stands for. -/
def readBoolean? : Value → Option Bool
  | .bool b => some b
  | .int 0 => some false
  | .int 1 => some true
  | .str s => readWord? (String.ofList ((Text.trim s.toList).map Char.toLower))
  | _ => none

/-- A date in its written form. -/
def readDate? : Value → Option String
  | .str s => (Calendar.date? s.toList).map (fun found => String.ofList found.text)
  | _ => none

/-- A date and time in its written form; one without an offset stays as it is. -/
def readMoment? : Value → Option String
  | .str s =>
      match Calendar.moment? s.toList with
      | some found => some (String.ofList found.text)
      | none => (Calendar.localTime? s.toList).map (fun _ => s)
  | _ => none

/-- The value as one of the type. -/
def coerce? (type : ScalarType) (value : Value) : Option Value :=
  match type with
  | any => some value
  | text => value.str?.map .str
  | integer => (readInteger? value).map .int
  | number => (readNumber? value).map .float
  | boolean => (readBoolean? value).map .bool
  | date => (readDate? value).map .str
  | moment => (readMoment? value).map .str

/-- What is said of a value that is none of the type. -/
def complaint : ScalarType → String
  | integer => "Input should be a valid integer"
  | number => "Input should be a valid number"
  | boolean => "Input should be a valid boolean"
  | date => "Input should be a valid date in the format YYYY-MM-DD"
  | moment => "Input should be a valid datetime"
  | text | any => "Input should be a valid string"

@[simp] theorem ofName?_name (type : ScalarType) : ofName? type.name = some type := by
  cases type <;> rfl

end ScalarType

end SchemaGuard
