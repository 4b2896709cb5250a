import SchemaGuard.Value

/-! # Equality and order of values

Numerical equality identifies an integer with the floating point number of the same
value, inside lists and tables too; identity tells them apart. Tables agree when they
bind the same names to equal values, in whatever order. Only numbers, texts, truth
values and lists are ordered.
-/

namespace SchemaGuard.Value

/-- Equality of two numbers. -/
def numberEqual (l r : Value) : Bool :=
  match l.int64?, r.int64? with
  | some i, some j => i == j
  | _, _ =>
      match l.float?, r.float? with
      | some x, some y => x.equal y
      | _, _ => false

mutual

/-- Equality with numbers compared by value. -/
def equal : Value → Value → Bool
  | null, null => true
  | bool a, bool b => a == b
  | int i, int j => numberEqual (int i) (int j)
  | int i, float y => numberEqual (int i) (float y)
  | float x, int j => numberEqual (float x) (int j)
  | float x, float y => numberEqual (float x) (float y)
  | str s, str t => s == t
  | list l, list r => equalList l r
  | dict l, dict r => l.length == r.length && equalEntries l r
  | _, _ => false

/-- Lists are equal element by element. -/
def equalList : List Value → List Value → Bool
  | [], [] => true
  | a :: l, b :: r => equal a b && equalList l r
  | _, _ => false

/-- Every entry of the first table has an equal one in the second. -/
def equalEntries : List (String × Value) → List (String × Value) → Bool
  | [], _ => true
  | (name, value) :: rest, other =>
      (match Table.get? other name with
        | some found => equal value found
        | none => false) && equalEntries rest other

end

mutual

/-- Identity: equality that tells integers from floating point numbers. -/
def identical : Value → Value → Bool
  | null, null => true
  | bool a, bool b => a == b
  | int i, int j => i == j
  | float x, float y => x.equal y
  | str s, str t => s == t
  | list l, list r => identicalList l r
  | dict l, dict r => l.length == r.length && identicalEntries l r
  | _, _ => false

/-- Lists are identical element by element. -/
def identicalList : List Value → List Value → Bool
  | [], [] => true
  | a :: l, b :: r => identical a b && identicalList l r
  | _, _ => false

/-- Every entry of the first table has an identical one in the second. -/
def identicalEntries : List (String × Value) → List (String × Value) → Bool
  | [], _ => true
  | (name, value) :: rest, other =>
      (match Table.get? other name with
        | some found => identical value found
        | none => false) && identicalEntries rest other

end

/-- The order of two numbers. -/
def numberOrder? (l r : Value) : Option Ordering :=
  match l.int64?, r.int64? with
  | some i, some j => some (compare i j)
  | _, _ => do
      let x ← l.float?
      let y ← r.float?
      pure (x.order y)

/-- Texts are ordered by their code points. -/
def textOrder : List Char → List Char → Ordering
  | [], [] => .eq
  | [], _ :: _ => .lt
  | _ :: _, [] => .gt
  | a :: l, b :: r => (compare a.toNat b.toNat).then (textOrder l r)

mutual

/-- The order of two values of the same ordered kind. -/
def order? : Value → Value → Option Ordering
  | int i, int j => numberOrder? (int i) (int j)
  | int i, float y => numberOrder? (int i) (float y)
  | float x, int j => numberOrder? (float x) (int j)
  | float x, float y => numberOrder? (float x) (float y)
  | str s, str t => some (textOrder s.toList t.toList)
  | bool a, bool b => some (compare a.toNat b.toNat)
  | list l, list r => orderList? l r
  | _, _ => none

/-- Lists are ordered by the first place where they differ, and then by length. -/
def orderList? : List Value → List Value → Option Ordering
  | [], [] => some .eq
  | [], _ :: _ => some .lt
  | _ :: _, [] => some .gt
  | a :: l, b :: r =>
      match order? a b with
      | none => none
      | some .eq => orderList? l r
      | some unequal => some unequal

end

/-- Keeps the first of every group of equal values; `kept` holds those found so far. -/
def dedupInto (kept : List Value) : List Value → List Value
  | [] => kept
  | item :: rest =>
      if kept.any (fun seen => equal seen item) then dedupInto kept rest
      else dedupInto (kept ++ [item]) rest

/-- The values of a list without repetitions, in the order of their first occurrence. -/
def dedup (items : List Value) : List Value :=
  dedupInto [] items

end SchemaGuard.Value
