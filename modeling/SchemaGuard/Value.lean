import SchemaGuard.Number.Shortest
import SchemaGuard.Number.Numeral
import SchemaGuard.Table

/-! # Dynamic values

The values that documents hold, that validators compute with and that records are built
from. Integers and floating point numbers are different values that compare as numbers:
exactly when both integers fit 64 bits with a sign, and as floating point numbers in any
other case.
-/

namespace SchemaGuard

/-- A value of the data model. -/
inductive Value where
  | null
  | bool (b : Bool)
  | int (i : Int)
  | float (x : Binary64)
  | str (s : String)
  | list (items : List Value)
  | dict (entries : List (String × Value))
deriving Inhabited

namespace Value

/-- The name of the kind of a value in messages. -/
def kindName : Value → String
  | null => "None"
  | bool _ => "bool"
  | int _ => "int"
  | float _ => "float"
  | str _ => "str"
  | list _ => "list"
  | dict _ => "dict"

/-- The value of a number that is a 64-bit signed integer. -/
def int64? : Value → Option Int
  | int i => Int64Range.check? i
  | _ => none

/-- The floating point view of a number. -/
def float? : Value → Option Binary64
  | int i => some (Binary64.ofInt i)
  | float x => some x
  | _ => none

/-- The integer view of a number or a truth value. -/
def integer? : Value → Option Int
  | int i => Int64Range.check? i
  | bool b => some (if b then 1 else 0)
  | _ => none

/-- The text of a string value. -/
def str? : Value → Option String
  | str s => some s
  | _ => none

/-- Null, false, zeros and empty text, lists and tables count as false. -/
def truthy : Value → Bool
  | null => false
  | bool b => b
  | int i => i != 0
  | float x => !x.isZero
  | str s => !s.isEmpty
  | list items => !items.isEmpty
  | dict entries => !entries.isEmpty

/-- The elements of a list, the characters of a text or the names of a table. -/
def iterate? : Value → Option (List Value)
  | list items => some items
  | str s => some (s.toList.map (fun c => str (String.singleton c)))
  | dict entries => some (entries.map (fun entry => str entry.1))
  | _ => none

/-- The value of a natural number. -/
def ofNat (n : Nat) : Value :=
  int n

end Value

end SchemaGuard
