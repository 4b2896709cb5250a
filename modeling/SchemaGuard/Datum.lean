import SchemaGuard.Value

/-! # Decoded input

Input as a text format delivers it, before anything is known of its use. What a scalar may
be read as depends on how it is written, so it carries all of its readings, and whoever
decodes it takes the one that is asked for.
-/

namespace SchemaGuard

/-- The readings of a scalar: as text, as a value of any kind, as a truth value and as a size.
A scalar may also stand for something left out, or for a table without entries. -/
structure Reading where
  text? : Option String := none
  value? : Option Value := none
  flag? : Option Bool := none
  size? : Option Nat := none
  isAbsent : Bool := false
  isEmptyTable : Bool := false

/-- Decoded input. A sequence or a mapping is `marked` if it may not be read as a value, because
it claims to be something else. A mapping keeps its entries in order and may repeat a name. -/
inductive Datum where
  | scalar (reading : Reading)
  | sequence (items : List Datum) (marked : Bool)
  | mapping (entries : List (Datum × Datum)) (marked : Bool)

namespace Datum

/-- Input that cannot be read as anything. -/
def unreadable : Datum := .scalar {}

mutual

/-- How deep input is nested. -/
def height : Datum → Nat
  | scalar _ => 1
  | sequence items _ => heightOfItems items + 1
  | mapping entries _ => heightOfEntries entries + 1

/-- How deep the items of a sequence are nested. -/
def heightOfItems : List Datum → Nat
  | [] => 0
  | item :: rest => max item.height (heightOfItems rest)

/-- How deep the entries of a mapping are nested. -/
def heightOfEntries : List (Datum × Datum) → Nat
  | [] => 0
  | (_, value) :: rest => max value.height (heightOfEntries rest)

end

/-- The text of a scalar. -/
def text? : Datum → Option String
  | scalar reading => reading.text?
  | _ => none

/-- The truth value that a scalar is. -/
def flag? : Datum → Option Bool
  | scalar reading => reading.flag?
  | _ => none

/-- The size that a scalar is. -/
def size? : Datum → Option Nat
  | scalar reading => reading.size?
  | _ => none

mutual

/-- Input as a value of any kind. -/
def toValue? : Datum → Option Value
  | scalar reading => reading.value?
  | sequence items marked =>
      if marked then none else (toValues? items).map .list
  | mapping entries marked =>
      if marked then none else (toEntries? entries).map (fun pairs => .dict (Table.ofPairs pairs))

/-- The items of a sequence as values. -/
def toValues? : List Datum → Option (List Value)
  | [] => some []
  | item :: rest => do
      let value ← item.toValue?
      let values ← toValues? rest
      pure (value :: values)

/-- The entries of a mapping as named values. -/
def toEntries? : List (Datum × Datum) → Option (List (String × Value))
  | [] => some []
  | (key, item) :: rest => do
      let name ← key.text?
      let value ← item.toValue?
      let values ← toEntries? rest
      pure ((name, value) :: values)

end

/-- Input that may be left out. -/
def optional? {α : Type} (read : Datum → Option α) (datum : Datum) : Option (Option α) :=
  match datum with
  | scalar { isAbsent := true, .. } => some none
  | datum => (read datum).map some

/-- The entries of a mapping, or of a scalar that stands for an empty one. -/
def entries? : Datum → Option (List (Datum × Datum))
  | scalar reading => if reading.isEmptyTable then some [] else none
  | sequence _ _ => none
  | mapping entries _ => some entries

/-- The entries of a mapping by name. A name that is repeated keeps its place and takes the later
entry. -/
def table? {α : Type} (read : Datum → Option α) (datum : Datum) : Option (Table α) := do
  let entries ← datum.entries?
  let pairs ← entries.mapM (fun (key, item) => do
    let name ← key.text?
    let value ← read item
    pure (name, value))
  pure (Table.ofPairs pairs)

/-- A mapping as a table of values. -/
def valueTable? (datum : Datum) : Option (Table Value) :=
  datum.table? toValue?

/-- The entries of a record: its known names, none of them twice, and nothing of the others. -/
def recordEntries? (known : List String) : List (Datum × Datum) → Option (Table Datum)
  | [] => some []
  | (key, item) :: rest => do
      let name ← key.text?
      let record ← recordEntries? known rest
      if !known.contains name then pure record
      else if Table.contains record name then none
      else pure ((name, item) :: record)

/-- The entries of a record with the given names. If `positional` is set, a sequence may list
them in the order of the names. -/
def record? (positional : Bool) (known : List String) (datum : Datum) : Option (Table Datum) :=
  match datum with
  | sequence items _ =>
      if positional ∧ items.length ≤ known.length then some (known.zip items) else none
  | datum => do
      let entries ← datum.entries?
      recordEntries? known entries

/-- An entry of a record that has to be there. -/
def required? {α : Type} (record : Table Datum) (name : String) (read : Datum → Option α) :
    Option α :=
  (Table.get? record name).bind read

/-- An entry of a record that has a default. -/
def defaulted? {α : Type} (record : Table Datum) (name : String) (default : α)
    (read : Datum → Option α) : Option α :=
  match Table.get? record name with
  | some datum => read datum
  | none => some default

mutual

/-- A value as decoded input, in which each kind of scalar has one reading. -/
def ofValue : Value → Datum
  | .null => scalar { value? := some .null, isAbsent := true }
  | .bool b => scalar { value? := some (.bool b), flag? := some b }
  | .int i => scalar { value? := some (.int i), size? := if 0 ≤ i then some i.toNat else none }
  | .float x => scalar { value? := some (.float x) }
  | .str s => scalar { value? := some (.str s), text? := some s }
  | .list items => sequence (ofValues items) false
  | .dict entries => mapping (ofEntries entries) false

/-- The elements of a list as decoded input. -/
def ofValues : List Value → List Datum
  | [] => []
  | value :: rest => ofValue value :: ofValues rest

/-- The entries of a table as decoded input. -/
def ofEntries : List (String × Value) → List (Datum × Datum)
  | [] => []
  | (name, value) :: rest =>
      (scalar { value? := some (.str name), text? := some name }, ofValue value) :: ofEntries rest

end

end Datum

end SchemaGuard
