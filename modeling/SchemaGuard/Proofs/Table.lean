import SchemaGuard.Table
import Mathlib.Data.List.Nodup

/-! # Laws of tables

What is bound in a table after many bindings, and in which order. A table without repeated
names is determined by its names in order and by what they are bound to.
-/

namespace SchemaGuard.Table

variable {α : Type}

@[simp] theorem keys_nil : keys ([] : Table α) = [] := rfl

@[simp] theorem keys_cons (name : String) (value : α) (rest : Table α) :
    keys ((name, value) :: rest) = name :: keys rest := rfl

theorem get?_cons (key name : String) (value : α) (rest : Table α) :
    get? ((key, value) :: rest) name = if key = name then some value else get? rest name := rfl

theorem get?_append (first second : Table α) (name : String) :
    get? (first ++ second) name = (get? first name).or (get? second name) := by
  induction first with
  | nil => rfl
  | cons entry rest ih =>
      obtain ⟨key, value⟩ := entry
      rw [List.cons_append, get?_cons, get?_cons]
      by_cases hkey : key = name
      · rw [if_pos hkey, if_pos hkey, Option.some_or]
      · rw [if_neg hkey, if_neg hkey, ih]

theorem get?_eq_none_iff {table : Table α} {name : String} :
    get? table name = none ↔ name ∉ keys table := by
  induction table with
  | nil => simp
  | cons entry rest ih =>
      obtain ⟨key, value⟩ := entry
      rw [get?_cons, keys_cons, List.mem_cons, not_or]
      by_cases hkey : key = name
      · simp [hkey]
      · rw [if_neg hkey, ih]
        exact ⟨fun hrest => ⟨fun hname => hkey hname.symm, hrest⟩, And.right⟩

theorem mem_keys_of_get? {table : Table α} {name : String} {value : α}
    (hget : get? table name = some value) : name ∈ keys table := by
  by_contra hname
  rw [get?_eq_none_iff.mpr hname] at hget
  cases hget

theorem exists_of_mem_keys {table : Table α} {name : String} (hname : name ∈ keys table) :
    ∃ value, get? table name = some value := by
  cases hget : get? table name with
  | none => exact absurd hname (get?_eq_none_iff.mp hget)
  | some value => exact ⟨value, rfl⟩

theorem mem_of_get? {table : Table α} {name : String} {value : α}
    (hget : get? table name = some value) : (name, value) ∈ table := by
  induction table with
  | nil => cases hget
  | cons entry rest ih =>
      obtain ⟨key, bound⟩ := entry
      rw [get?_cons] at hget
      by_cases hkey : key = name
      · rw [if_pos hkey] at hget
        cases hget
        rw [hkey]
        exact List.mem_cons_self
      · rw [if_neg hkey] at hget
        exact List.mem_cons_of_mem _ (ih hget)

theorem get?_of_mem {table : Table α} (hnodup : (keys table).Nodup) {name : String} {value : α}
    (hmem : (name, value) ∈ table) : get? table name = some value := by
  induction table with
  | nil => cases hmem
  | cons entry rest ih =>
      obtain ⟨key, bound⟩ := entry
      rw [keys_cons, List.nodup_cons] at hnodup
      rw [get?_cons]
      obtain heq | hrest := List.mem_cons.mp hmem
      · cases heq
        rw [if_pos rfl]
      · have hne : key ≠ name := by
          rintro rfl
          exact hnodup.1 (List.mem_map_of_mem hrest)
        rw [if_neg hne]
        exact ih hnodup.2 hrest

/-- Names that are bound once each in the same order, and to the same values, make up one
table. -/
theorem ext {table table' : Table α} (hkeys : keys table = keys table')
    (hnodup : (keys table).Nodup) (hget : ∀ name, get? table name = get? table' name) :
    table = table' := by
  induction table generalizing table' with
  | nil => exact (List.map_eq_nil_iff.mp hkeys.symm).symm
  | cons entry rest ih =>
      obtain ⟨key, value⟩ := entry
      obtain _ | ⟨⟨key', value'⟩, rest'⟩ := table'
      · cases hkeys
      · rw [keys_cons, keys_cons, List.cons.injEq] at hkeys
        obtain ⟨rfl, hrest⟩ := hkeys
        rw [keys_cons, List.nodup_cons] at hnodup
        obtain ⟨hkey, hnodup⟩ := hnodup
        have hvalue := hget key
        rw [get?_cons, get?_cons, if_pos rfl, if_pos rfl] at hvalue
        cases hvalue
        have htail : rest = rest' := by
          -- Past the first entry its name is unbound in both tables.
          refine ih hrest hnodup fun name => ?_
          have hname := hget name
          rw [get?_cons, get?_cons] at hname
          by_cases hne : key = name
          · subst hne
            rw [get?_eq_none_iff.mpr hkey, get?_eq_none_iff.mpr (hrest ▸ hkey)]
          · rwa [if_neg hne, if_neg hne] at hname
        rw [htail]

/-! ## Many bindings -/

/-- A new name is bound at the end. -/
theorem insert_of_not_mem {table : Table α} {name : String} {value : α}
    (hname : name ∉ keys table) : insert table name value = table ++ [(name, value)] := by
  induction table with
  | nil => rfl
  | cons entry rest ih =>
      obtain ⟨key, bound⟩ := entry
      rw [keys_cons, List.mem_cons, not_or] at hname
      rw [insert, if_neg (Ne.symm hname.1), ih hname.2]
      rfl

@[simp] theorem insertAll_nil (table : Table α) : insertAll table [] = table := rfl

@[simp] theorem insertAll_cons (table : Table α) (name : String) (value : α)
    (pairs : List (String × α)) :
    insertAll table ((name, value) :: pairs) = insertAll (insert table name value) pairs := rfl

theorem insertAll_append (table : Table α) (first second : List (String × α)) :
    insertAll table (first ++ second) = insertAll (insertAll table first) second :=
  List.foldl_append

/-- The last pair with a name takes precedence over the others and over what was bound before. -/
theorem get?_insertAll_reverse (table : Table α) (pairs : List (String × α)) (name : String) :
    get? (insertAll table pairs) name = (get? pairs.reverse name).or (get? table name) := by
  induction pairs generalizing table with
  | nil => rfl
  | cons pair rest ih =>
      obtain ⟨key, value⟩ := pair
      rw [insertAll_cons, ih, get?_insert, List.reverse_cons, get?_append, get?_cons, get?_nil,
        Option.or_assoc]
      by_cases hname : key = name
      · rw [if_pos hname, if_pos hname, Option.some_or]
      · rw [if_neg hname, if_neg hname, Option.none_or]

/-- Pairs with distinct names take precedence over what was bound before. -/
theorem get?_insertAll (table : Table α) {pairs : List (String × α)}
    (hnodup : (keys pairs).Nodup) (name : String) :
    get? (insertAll table pairs) name = (get? pairs name).or (get? table name) := by
  induction pairs generalizing table with
  | nil => simp
  | cons pair rest ih =>
      obtain ⟨key, value⟩ := pair
      rw [keys_cons, List.nodup_cons] at hnodup
      obtain ⟨hkey, hrest⟩ := hnodup
      rw [insertAll_cons, ih _ hrest, get?_insert, get?_cons]
      by_cases hname : key = name
      · subst hname
        rw [get?_eq_none_iff.mpr hkey, if_pos rfl, if_pos rfl]
        rfl
      · rw [if_neg hname, if_neg hname]

/-- Binding names anew keeps their order. -/
theorem keys_insertAll (table : Table α) {pairs : List (String × α)}
    (hpairs : ∀ name ∈ keys pairs, name ∈ keys table) :
    keys (insertAll table pairs) = keys table := by
  induction pairs generalizing table with
  | nil => rfl
  | cons pair rest ih =>
      obtain ⟨name, value⟩ := pair
      rw [keys_cons, List.forall_mem_cons] at hpairs
      obtain ⟨hname, hrest⟩ := hpairs
      have hinsert : keys (insert table name value) = keys table := by
        rw [keys_insert, if_pos hname]
      rw [insertAll_cons, ih _ (by rwa [hinsert]), hinsert]

/-- Pairs with new and distinct names are bound at the end as they come. -/
theorem insertAll_eq_append (table : Table α) {pairs : List (String × α)}
    (hnodup : (keys (table ++ pairs)).Nodup) : insertAll table pairs = table ++ pairs := by
  induction pairs generalizing table with
  | nil => simp
  | cons pair rest ih =>
      obtain ⟨name, value⟩ := pair
      have hsplit : table ++ (name, value) :: rest = (table ++ [(name, value)]) ++ rest := by simp
      rw [hsplit] at hnodup ⊢
      have hname : name ∉ keys table := by
        intro hmem
        simp only [keys, List.map_append, List.map_cons, List.map_nil] at hnodup
        have hdisjoint := List.disjoint_of_nodup_append (List.Nodup.of_append_left hnodup)
        exact hdisjoint hmem List.mem_cons_self
      rw [insertAll_cons, insert_of_not_mem hname, ih _ hnodup]

/-! ## Without a name -/

theorem keys_erase (table : Table α) (name : String) :
    keys (erase table name) = (keys table).filter (· ≠ name) := by
  rw [erase, keys, keys, List.filter_map]
  rfl

theorem notMem_keys_erase (table : Table α) (name : String) : name ∉ keys (erase table name) := by
  rw [keys_erase]
  simp

theorem erase_cons (key name : String) (value : α) (rest : Table α) :
    erase ((key, value) :: rest) name =
      if key = name then erase rest name else (key, value) :: erase rest name := by
  by_cases hkey : key = name <;> simp [erase, hkey]

theorem get?_erase (table : Table α) (name other : String) :
    get? (erase table name) other = if name = other then none else get? table other := by
  induction table with
  | nil => simp [erase]
  | cons entry rest ih =>
      obtain ⟨key, value⟩ := entry
      rw [erase_cons, get?_cons]
      by_cases hkey : key = name
      · subst hkey
        rw [if_pos rfl, ih]
        split <;> rfl
      · rw [if_neg hkey, get?_cons, ih]
        by_cases hother : key = other
        · subst hother
          rw [if_pos rfl, if_pos rfl, if_neg (Ne.symm hkey)]
        · rw [if_neg hother, if_neg hother]

/-- Entries that each have a value of another kind keep their names and their order. -/
theorem keys_filterMap {β : Type} {f : α → Option β} {table : Table α}
    (hf : ∀ name value, (name, value) ∈ table → ∃ b, f value = some b) :
    keys (table.filterMap fun (name, value) => (f value).map (name, ·)) = keys table := by
  induction table with
  | nil => rfl
  | cons entry rest ih =>
      obtain ⟨name, value⟩ := entry
      obtain ⟨b, hb⟩ := hf name value List.mem_cons_self
      have hrest := ih fun name value hmem => hf name value (List.mem_cons_of_mem _ hmem)
      simp [hb, hrest]

theorem get?_filterMap {β : Type} {f : α → Option β} {table : Table α}
    (hf : ∀ name value, (name, value) ∈ table → ∃ b, f value = some b) (name : String) :
    get? (table.filterMap fun (name, value) => (f value).map (name, ·)) name =
      (get? table name).bind f := by
  induction table with
  | nil => rfl
  | cons entry rest ih =>
      obtain ⟨key, value⟩ := entry
      obtain ⟨b, hb⟩ := hf key value List.mem_cons_self
      have hrest := ih fun name value hmem => hf name value (List.mem_cons_of_mem _ hmem)
      by_cases hkey : key = name
      · simp [get?_cons, hb, hkey]
      · simp [get?_cons, hb, hkey, hrest]

/-! ## One name alone -/

/-- The table with one name alone. -/
def only (table : Table α) (name : String) : Table α :=
  table.filter (fun entry => entry.1 = name)

theorem get?_only (table : Table α) (name : String) :
    get? (only table name) name = get? table name := by
  induction table with
  | nil => rfl
  | cons entry rest ih =>
      obtain ⟨key, value⟩ := entry
      by_cases hkey : key = name
      · simp [only, get?_cons, hkey]
      · simp only [only] at ih
        simp [only, get?_cons, hkey, ih]

end SchemaGuard.Table
