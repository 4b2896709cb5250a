import SchemaGuard.Function.Arguments
import SchemaGuard.Function.Sort
import SchemaGuard.Text.Search
import SchemaGuard.Value.Membership

/-! # Functions on collections

Size, extremes, sums, order, and the operations that treat lists as sets. The results of
set operations hold no value twice and keep the order of first occurrence.
-/

namespace SchemaGuard.Function

/-- The number of characters, elements or names. -/
def len : List Value → Result
  | [.str s] => .ok (.ofNat s.length)
  | [.list items] => .ok (.ofNat items.length)
  | [.dict entries] => .ok (.ofNat entries.length)
  | [other] =>
      .error (.badArgument "len" ("object of type '" ++ other.kindName ++ "' has no len()"))
  | args => miscounted "len" args

/-- Whether a container holds an item. -/
def contains : List Value → Result
  | [container, item] =>
      match container.contains? item with
      | some found => .ok (.bool found)
      | none => .error (.badArgument "contains" "invalid argument types for contains")
  | args => miscounted "contains" args

/-- The first of the values that no later one precedes, where `before` says which order counts. -/
def extremumFrom (function : String) (before : Ordering) : Value → List Value → Result
  | best, [] => .ok best
  | best, item :: rest =>
      match item.order? best with
      | none =>
          .error (.badArgument function
            ("cannot compare " ++ item.kindName ++ " and " ++ best.kindName))
      | some order =>
          extremumFrom function before (if order = before then item else best) rest

/-- The extreme value of a collection, or of several arguments. -/
def extremum (function : String) (before : Ordering) (args : List Value) : Result := do
  let items ← match args with
    | [single] =>
        match single.iterate? with
        | some items => .ok items
        | none => .error (.badArgument function "argument is not iterable")
    | args => .ok args
  match items with
  | [] => .error (.badArgument function "empty sequence")
  | first :: rest => extremumFrom function before first rest

/-- A running sum: exact while all terms are integers, then rounded, and finally beyond the finite
range. -/
inductive Total where
  | exact (sum : Int)
  | rounded (sum : Binary64)
  | unbounded

/-- The floating point sum with one more term. -/
def addRounded (sum term : Binary64) : Total :=
  match sum.add? term with
  | some sum => .rounded sum
  | none => .unbounded

/-- Adds a term to a running sum. -/
def Total.add (total : Total) (term : Value) : Except CallError Total :=
  let real : Except CallError Binary64 :=
    match term.float? with
    | some x => .ok x
    | none => .error (.badArgument "sum" "all items must be numbers")
  match total, term.int64? with
  | .exact sum, some i =>
      match Int64Range.check? (sum + i) with
      | some sum => .ok (.exact sum)
      | none => .error (.badArgument "sum" "integer overflow")
  | .exact sum, none => real.map (addRounded (Binary64.ofInt sum))
  | .rounded sum, _ => real.map (addRounded sum)
  | .unbounded, _ => real.map (fun _ => .unbounded)

/-- The start of a sum: a number, or zero for anything else. -/
def startOfSum : Value → Total
  | .float x => .rounded x
  | start => .exact (start.integer?.getD 0)

/-- The sum of the items from a start. -/
def sumFrom (start : Total) (collection : Value) : Result := do
  let items ← itemsOf "sum" collection
  let total ← items.foldlM Total.add start
  match total with
  | .exact sum => pure (.int sum)
  | .rounded sum => pure (.float sum)
  | .unbounded => .error .overflow

/-- The sum of the items of a collection. -/
def sum : List Value → Result
  | [collection] => sumFrom (.exact 0) collection
  | [collection, start] => sumFrom (startOfSum start) collection
  | args => miscounted "sum" args

/-- Whether all items count as true. -/
def all : List Value → Result
  | [collection] => (itemsOf "all" collection).map (fun items => .bool (items.all Value.truthy))
  | args => miscounted "all" args

/-- Whether some item counts as true. -/
def any : List Value → Result
  | [collection] => (itemsOf "any" collection).map (fun items => .bool (items.any Value.truthy))
  | args => miscounted "any" args

/-- The items in ascending order. -/
def sorted : List Value → Result
  | [collection] => do
      let items ← itemsOf "sorted" collection
      match Value.sort? items with
      | some items => pure (.list items)
      | none => .error (.badArgument "sorted" "items are not mutually comparable")
  | args => miscounted "sorted" args

/-- The items without repetitions. -/
def set : List Value → Result
  | [] => .ok (.list [])
  | [collection] => (itemsOf "set" collection).map (fun items => .list (Value.dedup items))
  | args => miscounted "set" args

/-- The items as a list. -/
def list : List Value → Result
  | [] => .ok (.list [])
  | [collection] => (itemsOf "list" collection).map .list
  | args => miscounted "list" args

/-- The items of the first collection that the second lacks. -/
def difference : List Value → Result
  | [left, right] => do
      let other ← itemsOf "difference" right
      let items ← itemsOf "difference" left
      pure (.list ((Value.dedup items).filter (fun item => !Value.memberOf other item)))
  | args => miscounted "difference" args

/-- The items of the first collection that the second has too. -/
def intersection : List Value → Result
  | [left, right] => do
      let other ← itemsOf "intersection" right
      let items ← itemsOf "intersection" left
      pure (.list ((Value.dedup items).filter (Value.memberOf other)))
  | args => miscounted "intersection" args

/-- The items of either collection. -/
def union : List Value → Result
  | [left, right] => do
      let items ← itemsOf "union" left
      let other ← itemsOf "union" right
      pure (.list (Value.dedup (items ++ other)))
  | args => miscounted "union" args

/-- Whether the second collection has every item of the first. -/
def issubset : List Value → Result
  | [left, right] => do
      let other ← itemsOf "issubset" right
      let items ← itemsOf "issubset" left
      pure (.bool (items.all (Value.memberOf other)))
  | args => miscounted "issubset" args

/-- How often a part occurs in a text, or a value in a list. -/
def count : List Value → Result
  | [.list items, item] => .ok (.ofNat (items.filter (fun found => found.equal item)).length)
  | [.str text, .str part] =>
      if part.isEmpty then .error (.badArgument "count" "expected a string or list receiver")
      else .ok (.ofNat (Text.occurrences part.toList text.toList))
  | [_, _] => .error (.badArgument "count" "expected a string or list receiver")
  | args => miscounted "count" args

/-- The error for a receiver that is no table. -/
def noTable (function : String) (value : Value) : Result :=
  .error (.badArgument function
    ("'" ++ value.kindName ++ "' object has no attribute '" ++ function ++ "'"))

/-- The value of a name in a table, or a fallback. -/
def getOr (table key fallback : Value) : Result :=
  match table with
  | .dict entries => do
      let name ← textOf "get" key
      pure ((Table.get? entries (String.ofList name)).getD fallback)
  | other => noTable "get" other

/-- The value of a name in a table, or a fallback. -/
def get : List Value → Result
  | [table, key] => getOr table key .null
  | [table, key, fallback] => getOr table key fallback
  | args => miscounted "get" args

/-- The names of a table. -/
def keys : List Value → Result
  | [.dict entries] => .ok (.list (entries.map (fun entry => .str entry.1)))
  | [other] => noTable "keys" other
  | args => miscounted "keys" args

/-- The values of a table. -/
def values : List Value → Result
  | [.dict entries] => .ok (.list (entries.map Prod.snd))
  | [other] => noTable "values" other
  | args => miscounted "values" args

/-- The functions on collections. -/
def collections : List Function := [
  ⟨"len", .exactly 1, len⟩,
  ⟨"contains", .exactly 2, contains⟩,
  ⟨"min", .range 1 none, extremum "min" .lt⟩,
  ⟨"max", .range 1 none, extremum "max" .gt⟩,
  ⟨"sum", .range 1 (some 2), sum⟩,
  ⟨"all", .range 1 (some 1), all⟩,
  ⟨"any", .range 1 (some 1), any⟩,
  ⟨"sorted", .range 1 (some 1), sorted⟩,
  ⟨"set", .range 0 (some 1), set⟩,
  ⟨"list", .range 0 (some 1), list⟩,
  ⟨"difference", .range 2 (some 2), difference⟩,
  ⟨"intersection", .range 2 (some 2), intersection⟩,
  ⟨"union", .range 2 (some 2), union⟩,
  ⟨"issubset", .range 2 (some 2), issubset⟩,
  ⟨"count", .range 2 (some 2), count⟩,
  ⟨"get", .range 2 (some 3), get⟩,
  ⟨"keys", .range 1 (some 1), keys⟩,
  ⟨"values", .range 1 (some 1), values⟩]

end SchemaGuard.Function
