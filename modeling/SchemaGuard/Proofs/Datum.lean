import SchemaGuard.Datum
import SchemaGuard.Proofs.Table

/-! # Values as decoded input

A value is read back from the input that it is as long as none of its tables binds a name
twice, and whatever is read as a value from input of a text format or from a value is of
that kind. A record is read back from its entries by name.
-/

namespace SchemaGuard

open Table

variable {α : Type}

namespace Table

theorem keys_mapValues {β : Type} (f : α → β) (table : Table α) :
    keys (mapValues f table) = keys table := by
  simp [keys, mapValues]

theorem get?_mapValues {β : Type} (f : α → β) (table : Table α) (name : String) :
    get? (mapValues f table) name = (get? table name).map f := by
  induction table with
  | nil => rfl
  | cons entry rest ih =>
      obtain ⟨key, value⟩ := entry
      rw [mapValues, List.map_cons, ← mapValues, get?_cons, get?_cons, ih]
      split <;> rfl

theorem nodup_insert {table : Table α} (hnodup : (keys table).Nodup) (name : String) (value : α) :
    (keys (insert table name value)).Nodup := by
  rw [keys_insert]
  split
  next => exact hnodup
  next hname =>
    refine List.nodup_append.mpr ⟨hnodup, List.nodup_singleton name, ?_⟩
    rintro bound hbound _ hlast rfl
    exact hname (List.mem_singleton.mp hlast ▸ hbound)

theorem mem_insert {table : Table α} {name : String} {value : α} {entry : String × α}
    (hentry : entry ∈ insert table name value) : entry = (name, value) ∨ entry ∈ table := by
  induction table with
  | nil => exact .inl (List.mem_singleton.mp hentry)
  | cons head rest ih =>
      obtain ⟨key, old⟩ := head
      rw [insert] at hentry
      split at hentry
      next hkey =>
        obtain rfl | hentry := List.mem_cons.mp hentry
        · exact .inl (by rw [hkey])
        · exact .inr (List.mem_cons_of_mem _ hentry)
      next =>
        obtain rfl | hentry := List.mem_cons.mp hentry
        · exact .inr List.mem_cons_self
        · exact (ih hentry).imp_right (List.mem_cons_of_mem _)

/-- A table that is made of pairs binds every name once, to a value of one of the pairs. -/
theorem nodup_insertAll {table : Table α} (hnodup : (keys table).Nodup)
    (pairs : List (String × α)) : (keys (insertAll table pairs)).Nodup := by
  induction pairs generalizing table with
  | nil => exact hnodup
  | cons pair rest ih => exact ih (nodup_insert hnodup pair.1 pair.2)

theorem mem_insertAll {table : Table α} {pairs : List (String × α)} {entry : String × α}
    (hentry : entry ∈ insertAll table pairs) : entry ∈ pairs ∨ entry ∈ table := by
  induction pairs generalizing table with
  | nil => exact .inr hentry
  | cons pair rest ih =>
      obtain hrest | htable := ih hentry
      · exact .inl (List.mem_cons_of_mem _ hrest)
      · obtain rfl | htable := mem_insert htable
        · exact .inl List.mem_cons_self
        · exact .inr htable

theorem nodup_ofPairs (pairs : List (String × α)) : (keys (ofPairs pairs)).Nodup := by
  have hnil : (keys ([] : Table α)).Nodup := List.nodup_nil
  exact nodup_insertAll hnil pairs

theorem mem_ofPairs {pairs : List (String × α)} {entry : String × α}
    (hentry : entry ∈ ofPairs pairs) : entry ∈ pairs :=
  (mem_insertAll hentry).resolve_right List.not_mem_nil

/-- Pairs with distinct names are a table as they stand. -/
theorem ofPairs_eq {pairs : List (String × α)} (hnodup : (keys pairs).Nodup) :
    ofPairs pairs = pairs :=
  insertAll_eq_append [] hnodup

end Table

/-! ## Values whose tables bind every name once -/

namespace Value

mutual

/-- Every table in a value binds each of its names once. -/
def BindsOnce : Value → Prop
  | .null | .bool _ | .int _ | .float _ | .str _ => True
  | .list items => BindsOnceIn items
  | .dict entries => (keys entries).Nodup ∧ BindsOnceUnder entries

/-- Every table in the items of a list binds each of its names once. -/
def BindsOnceIn : List Value → Prop
  | [] => True
  | value :: rest => value.BindsOnce ∧ BindsOnceIn rest

/-- Every table in the values of a table binds each of its names once. -/
def BindsOnceUnder : List (String × Value) → Prop
  | [] => True
  | (_, value) :: rest => value.BindsOnce ∧ BindsOnceUnder rest

end

theorem bindsOnceUnder_iff {entries : Table Value} :
    BindsOnceUnder entries ↔ ∀ entry ∈ entries, entry.2.BindsOnce := by
  induction entries with
  | nil => simp [BindsOnceUnder]
  | cons entry rest ih => rw [BindsOnceUnder, List.forall_mem_cons, ih]

end Value

namespace Datum

/-! ## Values that are read back -/

mutual

theorem toValue?_ofValue : ∀ {value : Value}, value.BindsOnce →
    (ofValue value).toValue? = some value
  | .null, _ | .bool _, _ | .int _, _ | .float _, _ | .str _, _ => rfl
  | .list items, hitems => by
      rw [ofValue, toValue?, toValues?_ofValues hitems]
      rfl
  | .dict entries, hentries => by
      obtain ⟨hnodup, hunder⟩ := hentries
      rw [ofValue, toValue?, toEntries?_ofEntries hunder]
      exact congrArg (some ∘ Value.dict) (ofPairs_eq hnodup)

theorem toValues?_ofValues : ∀ {items : List Value}, Value.BindsOnceIn items →
    toValues? (ofValues items) = some items
  | [], _ => rfl
  | value :: rest, ⟨hvalue, hrest⟩ => by
      rw [ofValues, toValues?, toValue?_ofValue hvalue, toValues?_ofValues hrest]
      rfl

theorem toEntries?_ofEntries : ∀ {entries : List (String × Value)},
    Value.BindsOnceUnder entries → toEntries? (ofEntries entries) = some entries
  | [], _ => rfl
  | (name, value) :: rest, ⟨hvalue, hrest⟩ => by
      rw [ofEntries, toEntries?, toValue?_ofValue hvalue, toEntries?_ofEntries hrest]
      rfl

end

/-! ## Values that are read -/

mutual

/-- Input whose scalars are read as values that bind every name once. -/
def BindsOnce : Datum → Prop
  | .scalar reading => ∀ value, reading.value? = some value → value.BindsOnce
  | .sequence items _ => BindsOnceIn items
  | .mapping entries _ => BindsOnceUnder entries

/-- The items of a sequence are such input. -/
def BindsOnceIn : List Datum → Prop
  | [] => True
  | item :: rest => item.BindsOnce ∧ BindsOnceIn rest

/-- What stands under the names of a mapping is such input. -/
def BindsOnceUnder : List (Datum × Datum) → Prop
  | [] => True
  | (_, item) :: rest => item.BindsOnce ∧ BindsOnceUnder rest

end

mutual

/-- Every value that is read binds each name once, since later entries of a name replace
earlier ones. -/
theorem BindsOnce.value : ∀ {datum : Datum} {value : Value}, datum.BindsOnce →
    datum.toValue? = some value → value.BindsOnce
  | .scalar reading, _, hdatum, hvalue => by
      rw [BindsOnce] at hdatum
      exact hdatum _ hvalue
  | .sequence items marked, value, hdatum, hvalue => by
      rw [BindsOnce] at hdatum
      rw [toValue?] at hvalue
      split at hvalue
      next => cases hvalue
      next =>
        obtain ⟨values, hvalues, rfl⟩ := Option.map_eq_some_iff.mp hvalue
        exact BindsOnceIn.values hdatum hvalues
  | .mapping entries marked, value, hdatum, hvalue => by
      rw [BindsOnce] at hdatum
      rw [toValue?] at hvalue
      split at hvalue
      next => cases hvalue
      next =>
        obtain ⟨pairs, hpairs, rfl⟩ := Option.map_eq_some_iff.mp hvalue
        have hunder := Value.bindsOnceUnder_iff.mp (BindsOnceUnder.entries hdatum hpairs)
        exact ⟨nodup_ofPairs pairs, Value.bindsOnceUnder_iff.mpr fun entry hentry =>
          hunder entry (mem_ofPairs hentry)⟩

theorem BindsOnceIn.values : ∀ {items : List Datum} {values : List Value}, BindsOnceIn items →
    toValues? items = some values → Value.BindsOnceIn values
  | [], _, _, hvalues => by
      cases hvalues
      trivial
  | item :: rest, _, ⟨hitem, hrest⟩, hvalues => by
      rw [toValues?] at hvalues
      obtain ⟨value, hvalue, hvalues⟩ := Option.bind_eq_some_iff.mp hvalues
      obtain ⟨others, hothers, hvalues⟩ := Option.bind_eq_some_iff.mp hvalues
      cases hvalues
      exact ⟨hitem.value hvalue, BindsOnceIn.values hrest hothers⟩

theorem BindsOnceUnder.entries : ∀ {entries : List (Datum × Datum)}
    {pairs : List (String × Value)}, BindsOnceUnder entries →
      toEntries? entries = some pairs → Value.BindsOnceUnder pairs
  | [], _, _, hpairs => by
      cases hpairs
      trivial
  | (key, item) :: rest, _, ⟨hitem, hrest⟩, hpairs => by
      rw [toEntries?] at hpairs
      obtain ⟨name, _, hpairs⟩ := Option.bind_eq_some_iff.mp hpairs
      obtain ⟨value, hvalue, hpairs⟩ := Option.bind_eq_some_iff.mp hpairs
      obtain ⟨others, hothers, hpairs⟩ := Option.bind_eq_some_iff.mp hpairs
      cases hpairs
      exact ⟨hitem.value hvalue, BindsOnceUnder.entries hrest hothers⟩

end

mutual

/-- A value as input has scalars that hold no tables. -/
theorem bindsOnce_ofValue : ∀ value : Value, (ofValue value).BindsOnce
  | .null | .bool _ | .int _ | .float _ | .str _ => by
      rintro _ ⟨⟩
      trivial
  | .list items => bindsOnceIn_ofValues items
  | .dict entries => bindsOnceUnder_ofEntries entries

theorem bindsOnceIn_ofValues : ∀ items : List Value, BindsOnceIn (ofValues items)
  | [] => trivial
  | value :: rest => ⟨bindsOnce_ofValue value, bindsOnceIn_ofValues rest⟩

theorem bindsOnceUnder_ofEntries : ∀ entries : List (String × Value),
    BindsOnceUnder (ofEntries entries)
  | [] => trivial
  | (_, value) :: rest => ⟨bindsOnce_ofValue value, bindsOnceUnder_ofEntries rest⟩

end

/-! ## Tables and records -/

/-- A table is read back from the input that its entries are written as. -/
theorem table?_ofValue {read : Datum → Option α} {write : α → Value} {table : Table α}
    (hnodup : (keys table).Nodup)
    (hread : ∀ entry ∈ table, read (ofValue (write entry.2)) = some entry.2) :
    (ofValue (.dict (mapValues write table))).table? read = some table := by
  have hpairs : (ofEntries (mapValues write table)).mapM (fun entry => do
      let name ← entry.1.text?
      let value ← read entry.2
      pure (name, value)) = some table := by
    induction table with
    | nil => rfl
    | cons entry rest ih =>
        obtain ⟨name, a⟩ := entry
        obtain ⟨ha, hrest⟩ := List.forall_mem_cons.mp hread
        rw [mapValues, List.map_cons, ← mapValues, ofEntries, List.mapM_cons,
          ih (List.nodup_cons.mp hnodup).2 hrest]
        simp only [ha, text?]
        rfl
  exact Option.bind_eq_some_iff.mpr ⟨table, hpairs, congrArg some (ofPairs_eq hnodup)⟩

theorem valueTable?_ofValue {table : Table Value} (htable : (Value.dict table).BindsOnce) :
    (ofValue (.dict table)).valueTable? = some table := by
  obtain ⟨hnodup, hunder⟩ := htable
  have hread : (ofValue (.dict (mapValues id table))).table? toValue? = some table :=
    table?_ofValue hnodup fun entry hentry =>
      toValue?_ofValue (Value.bindsOnceUnder_iff.mp hunder entry hentry)
  rw [valueTable?]
  simpa [mapValues] using hread

/-- A record is read back from its entries, if these are known and in the known order. -/
theorem record?_ofValue {known : List String} (hnodup : known.Nodup) {fields : Table Value}
    (hfields : (keys fields).Sublist known) (positional : Bool) :
    (ofValue (.dict fields)).record? positional known = some (mapValues ofValue fields) := by
  have hrecord : ∀ fields : Table Value, (keys fields).Nodup → keys fields ⊆ known →
      recordEntries? known (ofEntries fields) = some (mapValues ofValue fields) := by
    intro fields hnodup hknown
    induction fields with
    | nil => rfl
    | cons entry rest ih =>
        obtain ⟨name, value⟩ := entry
        rw [keys_cons, List.cons_subset] at hknown
        obtain ⟨hname, hrest⟩ := hknown
        obtain ⟨hfirst, hnodup⟩ := List.nodup_cons.mp hnodup
        have hnew : Table.contains (mapValues ofValue rest) name = false := by
          rw [Table.contains, get?_eq_none_iff.mpr (by rwa [keys_mapValues])]
          rfl
        rw [ofEntries, recordEntries?, ih hnodup hrest]
        simp only [text?, Option.bind_eq_bind, Option.bind_some, hnew,
          List.contains_iff_mem.mpr hname, Bool.not_true, Bool.false_eq_true, if_false]
        rfl
  exact Option.bind_eq_some_iff.mpr
    ⟨_, rfl, hrecord fields (hfields.nodup hnodup) hfields.subset⟩

theorem required?_ofValue {fields : Table Value} {name : String} {value : Value}
    (hget : get? fields name = some value) (read : Datum → Option α) :
    required? (mapValues ofValue fields) name read = read (ofValue value) := by
  rw [required?, get?_mapValues, hget]
  rfl

theorem defaulted?_ofValue {fields : Table Value} {name : String} {value : Value}
    (hget : get? fields name = some value) (default : α) (read : Datum → Option α) :
    defaulted? (mapValues ofValue fields) name default read = read (ofValue value) := by
  rw [defaulted?, get?_mapValues, hget]
  rfl

theorem defaulted?_absent {fields : Table Value} {name : String}
    (hget : get? fields name = none) (default : α) (read : Datum → Option α) :
    defaulted? (mapValues ofValue fields) name default read = some default := by
  rw [defaulted?, get?_mapValues, hget]
  rfl

/-- An entry that is written only if there is something to write is read back. -/
theorem defaulted?_map {fields : Table Value} {name : String} {written : Option α}
    {write : α → Value} {read : Datum → Option (Option α)}
    (hget : get? fields name = written.map write)
    (hread : ∀ a, written = some a → read (ofValue (write a)) = some (some a)) :
    defaulted? (mapValues ofValue fields) name none read = some written := by
  cases written with
  | none => exact defaulted?_absent hget none read
  | some a => rw [defaulted?_ofValue hget none read, hread a rfl]

/-- A table that is written only if it has entries is read back. -/
theorem defaulted?_valueTable {fields : Table Value} {name : String} {table : Table Value}
    (hget : get? fields name = if table.isEmpty then none else some (.dict table))
    (htable : (Value.dict table).BindsOnce) :
    defaulted? (mapValues ofValue fields) name [] valueTable? = some table := by
  split at hget
  next hempty => rw [defaulted?_absent hget, List.isEmpty_iff.mp hempty]
  next => rw [defaulted?_ofValue hget, valueTable?_ofValue htable]

/-- What is there is not left out. -/
theorem optional?_ofValue {value : Value} (hvalue : value ≠ .null) (read : Datum → Option α) :
    (ofValue value).optional? read = (read (ofValue value)).map some := by
  cases value with
  | null => exact absurd rfl hvalue
  | _ => rfl

/-! ## What is read of tables and records -/

theorem bindsOnceIn_iff {items : List Datum} :
    BindsOnceIn items ↔ ∀ item ∈ items, item.BindsOnce := by
  induction items with
  | nil => simp [BindsOnceIn]
  | cons item rest ih => rw [BindsOnceIn, List.forall_mem_cons, ih]

theorem bindsOnceUnder_iff {entries : List (Datum × Datum)} :
    BindsOnceUnder entries ↔ ∀ entry ∈ entries, entry.2.BindsOnce := by
  induction entries with
  | nil => simp [BindsOnceUnder]
  | cons entry rest ih => rw [BindsOnceUnder, List.forall_mem_cons, ih]

theorem BindsOnce.entries {datum : Datum} {entries : List (Datum × Datum)}
    (hdatum : datum.BindsOnce) (hentries : datum.entries? = some entries) :
    BindsOnceUnder entries := by
  cases datum with
  | scalar reading =>
      rw [entries?] at hentries
      split at hentries
      next =>
        cases hentries
        trivial
      next => cases hentries
  | sequence items marked => cases hentries
  | mapping entries marked =>
      cases hentries
      rwa [BindsOnce] at hdatum

theorem mapM_pairs {entries : List (Datum × Datum)} {read : Datum → Option α}
    {pairs : List (String × α)}
    (hpairs : entries.mapM (fun (key, item) => do
      let name ← key.text?
      let value ← read item
      pure (name, value)) = some pairs) {pair : String × α} (hpair : pair ∈ pairs) :
    ∃ entry ∈ entries, read entry.2 = some pair.2 := by
  induction entries generalizing pairs with
  | nil =>
      cases hpairs
      cases hpair
  | cons entry rest ih =>
      rw [List.mapM_cons] at hpairs
      obtain ⟨head, hhead, hpairs⟩ := Option.bind_eq_some_iff.mp hpairs
      obtain ⟨others, hothers, hpairs⟩ := Option.bind_eq_some_iff.mp hpairs
      cases hpairs
      obtain rfl | hpair := List.mem_cons.mp hpair
      · obtain ⟨name, _, hhead⟩ := Option.bind_eq_some_iff.mp hhead
        obtain ⟨value, hvalue, hhead⟩ := Option.bind_eq_some_iff.mp hhead
        cases hhead
        exact ⟨entry, List.mem_cons_self, hvalue⟩
      · obtain ⟨found, hfound, hread⟩ := ih hothers hpair
        exact ⟨found, List.mem_cons_of_mem _ hfound, hread⟩

/-- A table that is read binds every name once, to something that is read of such input as the
table is read of. -/
theorem BindsOnce.table {datum : Datum} {read : Datum → Option α} {table : Table α}
    (hdatum : datum.BindsOnce) (htable : datum.table? read = some table) :
    (keys table).Nodup ∧
      ∀ entry ∈ table, ∃ item : Datum, item.BindsOnce ∧ read item = some entry.2 := by
  obtain ⟨entries, hentries, htable⟩ := Option.bind_eq_some_iff.mp htable
  obtain ⟨pairs, hpairs, htable⟩ := Option.bind_eq_some_iff.mp htable
  cases htable
  refine ⟨nodup_ofPairs pairs, fun entry hentry => ?_⟩
  obtain ⟨found, hfound, hread⟩ := mapM_pairs hpairs (mem_ofPairs hentry)
  exact ⟨found.2, bindsOnceUnder_iff.mp (hdatum.entries hentries) found hfound, hread⟩

theorem BindsOnce.valueTable {datum : Datum} {table : Table Value} (hdatum : datum.BindsOnce)
    (htable : datum.valueTable? = some table) : (Value.dict table).BindsOnce := by
  obtain ⟨hnodup, hentries⟩ := hdatum.table htable
  refine ⟨hnodup, Value.bindsOnceUnder_iff.mpr fun entry hentry => ?_⟩
  obtain ⟨item, hitem, hread⟩ := hentries entry hentry
  exact hitem.value hread

theorem recordEntries?_subset {known : List String} {entries : List (Datum × Datum)}
    {record : Table Datum} (hrecord : recordEntries? known entries = some record)
    {entry : String × Datum} (hentry : entry ∈ record) :
    ∃ found ∈ entries, found.2 = entry.2 := by
  induction entries generalizing record with
  | nil =>
      cases hrecord
      cases hentry
  | cons head rest ih =>
      obtain ⟨name, _, hrecord⟩ := Option.bind_eq_some_iff.mp hrecord
      obtain ⟨others, hothers, hrecord⟩ := Option.bind_eq_some_iff.mp hrecord
      have hold : entry ∈ others → ∃ found ∈ head :: rest, found.2 = entry.2 := fun hentry =>
        (ih hothers hentry).imp fun _ hfound => ⟨List.mem_cons_of_mem _ hfound.1, hfound.2⟩
      split at hrecord
      next =>
        cases hrecord
        exact hold hentry
      next =>
        split at hrecord
        next => cases hrecord
        next =>
          cases hrecord
          obtain rfl | hentry := List.mem_cons.mp hentry
          · exact ⟨head, List.mem_cons_self, rfl⟩
          · exact hold hentry

/-- The entries of a record are such input as the record is. -/
theorem BindsOnce.record {datum : Datum} {positional : Bool} {known : List String}
    {record : Table Datum} (hdatum : datum.BindsOnce)
    (hrecord : datum.record? positional known = some record) {entry : String × Datum}
    (hentry : entry ∈ record) : entry.2.BindsOnce := by
  unfold record? at hrecord
  split at hrecord
  next items marked =>
    rw [BindsOnce, bindsOnceIn_iff] at hdatum
    split at hrecord
    next =>
      cases hrecord
      exact hdatum _ (List.of_mem_zip hentry).2
    next => cases hrecord
  next =>
    obtain ⟨entries, hentries, hrecord⟩ := Option.bind_eq_some_iff.mp hrecord
    obtain ⟨found, hfound, hitem⟩ := recordEntries?_subset hrecord hentry
    exact hitem ▸ bindsOnceUnder_iff.mp (hdatum.entries hentries) found hfound

theorem required?_eq_some {record : Table Datum} {name : String} {read : Datum → Option α} {a : α}
    (hread : required? record name read = some a) :
    ∃ entry ∈ record, read entry.2 = some a := by
  obtain ⟨item, hitem, hread⟩ := Option.bind_eq_some_iff.mp hread
  exact ⟨(name, item), mem_of_get? hitem, hread⟩

theorem defaulted?_eq_some {record : Table Datum} {name : String} {default : α}
    {read : Datum → Option α} {a : α} (hread : defaulted? record name default read = some a) :
    a = default ∨ ∃ entry ∈ record, read entry.2 = some a := by
  rw [defaulted?] at hread
  split at hread
  next item hitem => exact .inr ⟨(name, item), mem_of_get? hitem, hread⟩
  next =>
    cases hread
    exact .inl rfl

theorem optional?_eq_some {read : Datum → Option α} {datum : Datum} {a : α}
    (hread : datum.optional? read = some (some a)) : read datum = some a := by
  unfold optional? at hread
  split at hread
  next => cases hread
  next =>
    obtain ⟨_, hread, heq⟩ := Option.map_eq_some_iff.mp hread
    cases heq
    exact hread

/-! ## Nesting -/

theorem height_le_heightOfEntries {entries : Table Value} {entry : String × Value}
    (hentry : entry ∈ entries) :
    (ofValue entry.2).height ≤ heightOfEntries (ofEntries entries) := by
  induction entries with
  | nil => cases hentry
  | cons head rest ih =>
      obtain ⟨name, value⟩ := head
      rw [ofEntries, heightOfEntries]
      obtain rfl | hentry := List.mem_cons.mp hentry
      · exact Nat.le_max_left _ _
      · exact Nat.le_trans (ih hentry) (Nat.le_max_right _ _)

/-- What a table holds is not as deep as the table. -/
theorem height_lt_of_mem {entries : Table Value} {entry : String × Value}
    (hentry : entry ∈ entries) : (ofValue entry.2).height < (ofValue (.dict entries)).height :=
  Nat.lt_succ_of_le (height_le_heightOfEntries hentry)

end Datum

end SchemaGuard
