/-! # Insertion-ordered tables

A table maps names to values and remembers the order in which the names were
first bound. Binding a name again keeps its place and replaces its value.
-/

namespace SchemaGuard

/-- Named values in the order in which the names were first bound. -/
abbrev Table (α : Type) := List (String × α)

namespace Table

variable {α : Type}

/-- The value bound to a name. -/
def get? : Table α → String → Option α
  | [], _ => none
  | (key, value) :: rest, name => if key = name then some value else get? rest name

/-- Whether a name is bound. -/
def contains (table : Table α) (name : String) : Bool :=
  (get? table name).isSome

/-- Binds a name, in place if it is bound already and at the end otherwise. -/
def insert : Table α → String → α → Table α
  | [], name, value => [(name, value)]
  | (key, old) :: rest, name, value =>
      if key = name then (key, value) :: rest else (key, old) :: insert rest name value

/-- The bound names in order. -/
def keys (table : Table α) : List String :=
  table.map Prod.fst

/-- The bound values in the order of their names. -/
def values (table : Table α) : List α :=
  table.map Prod.snd

/-- Binds the pairs of a list one after the other. -/
def insertAll (table : Table α) (pairs : List (String × α)) : Table α :=
  pairs.foldl (fun table pair => insert table pair.1 pair.2) table

/-- The table made by binding the pairs of a list from left to right. -/
def ofPairs (pairs : List (String × α)) : Table α :=
  insertAll [] pairs

/-- The table without one name. -/
def erase (table : Table α) (name : String) : Table α :=
  table.filter (fun pair => pair.1 ≠ name)

/-- Applies a function to every bound value. -/
def mapValues {β : Type} (f : α → β) (table : Table α) : Table β :=
  table.map (fun pair => (pair.1, f pair.2))

@[simp] theorem get?_nil (name : String) : get? ([] : Table α) name = none := rfl

theorem get?_insert (table : Table α) (key name : String) (value : α) :
    get? (insert table key value) name = if key = name then some value else get? table name := by
  induction table with
  | nil => simp [insert, get?]
  | cons head rest ih =>
      obtain ⟨bound, old⟩ := head
      by_cases hkey : bound = key <;> by_cases hname : bound = name <;> grind [insert, get?]

theorem keys_insert (table : Table α) (key : String) (value : α) :
    keys (insert table key value) =
      if key ∈ keys table then keys table else keys table ++ [key] := by
  induction table with
  | nil => simp [insert, keys]
  | cons head rest ih =>
      obtain ⟨bound, old⟩ := head
      by_cases hkey : bound = key
      · simp [insert, keys, hkey]
      · have hne : ¬ key = bound := fun h => hkey h.symm
        simp only [keys] at ih
        by_cases hmem : key ∈ rest.map Prod.fst <;> simp_all [insert, keys]

end Table

end SchemaGuard
