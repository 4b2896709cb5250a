import SchemaGuard.Document.Decode
import SchemaGuard.Proofs.Datum

/-! # Documents that are written and read again

A document is written as a table that leaves out what it does not state. Reading that table
gives the document back, with everything in the order that it had, at any depth of groups.
Every document that is read at all can be written so.
-/

namespace SchemaGuard

open Table Datum

/-! ## Validators -/

/-- A stated mode is read back from its name. -/
theorem ValidatorSpec.ofDatum?_toValue (spec : ValidatorSpec) :
    ofDatum? (ofValue spec.toValue) = some spec := by
  cases spec with
  | source text => rfl
  | full text mode =>
      cases mode with
      | none => rfl
      | some mode => cases mode <;> rfl

theorem ValidatorSpec.toValue_ne_null (spec : ValidatorSpec) : spec.toValue ≠ .null := by
  cases spec <;> rintro ⟨⟩

/-- A validator that may be left out is read back from what is written for it. -/
theorem defaulted?_validator {fields : Table Value} {validator : Option ValidatorSpec}
    (hget : get? fields "validator" = validator.map ValidatorSpec.toValue) :
    defaulted? (mapValues ofValue fields) "validator" none (optional? ValidatorSpec.ofDatum?) =
      some validator :=
  defaulted?_map hget fun spec _ => by
    rw [optional?_ofValue spec.toValue_ne_null, spec.ofDatum?_toValue]
    rfl

/-! ## Entries that may be left out -/

theorem get?_toList_map {α : Type} (o : Option α) (write : α → Value) (key name : String) :
    get? (o.map fun a => (key, write a)).toList name = if key = name then o.map write else none := by
  cases o with
  | none => exact (ite_self none).symm
  | some a => rfl

theorem get?_unlessEmpty (table : Table Value) (key name : String) :
    get? (if table.isEmpty then [] else [(key, Value.dict table)]) name =
      if key = name then if table.isEmpty then none else some (.dict table) else none := by
  split
  next => exact (ite_self none).symm
  next => rfl

theorem keys_toList_map {α : Type} (o : Option α) (write : α → Value) (key : String) :
    (keys (o.map fun a => (key, write a)).toList).Sublist [key] := by
  cases o with
  | none => exact List.nil_sublist _
  | some a => exact List.Sublist.refl _

theorem keys_unlessEmpty (table : Table Value) (key : String) :
    (keys (if table.isEmpty then [] else [(key, Value.dict table)])).Sublist [key] := by
  split
  next => exact List.nil_sublist _
  next => exact List.Sublist.refl _

namespace Property

/-! ## Properties that bind every name once -/

mutual

/-- Every table in a property binds each of its names once: its constraints, the tables in its
default and its properties at any depth. -/
def BindsOnce : Property → Prop
  | ⟨_, _, properties, default, constraints, _, _⟩ =>
      (∀ value, default = some value → value.BindsOnce) ∧ (Value.dict constraints).BindsOnce ∧
        BindsOnceWithin properties
termination_by structural property => property

/-- The properties of a group, if there are any, bind each of their names once. -/
def BindsOnceWithin : Option (List (String × Property)) → Prop
  | none => True
  | some properties => (keys properties).Nodup ∧ BindsOnceUnder properties
termination_by structural properties => properties

/-- Each of some properties binds every name once. -/
def BindsOnceUnder : List (String × Property) → Prop
  | [] => True
  | (_, property) :: rest => property.BindsOnce ∧ BindsOnceUnder rest
termination_by structural properties => properties

end

theorem bindsOnceUnder_iff {properties : Table Property} :
    BindsOnceUnder properties ↔ ∀ entry ∈ properties, entry.2.BindsOnce := by
  induction properties with
  | nil => simp [BindsOnceUnder]
  | cons entry rest ih => rw [BindsOnceUnder, List.forall_mem_cons, ih]

theorem bindsOnce_iff {property : Property} :
    property.BindsOnce ↔
      (∀ value, property.default = some value → value.BindsOnce) ∧
        (Value.dict property.constraints).BindsOnce ∧
        ∀ properties, property.properties = some properties →
          (keys properties).Nodup ∧ ∀ entry ∈ properties, entry.2.BindsOnce := by
  obtain ⟨description, typeName, properties, default, constraints, validator, refusesEmpty⟩ :=
    property
  cases properties with
  | none => simp [BindsOnce, BindsOnceWithin]
  | some properties => simp [BindsOnce, BindsOnceWithin, bindsOnceUnder_iff]

/-! ## Properties that are written -/

theorem toValues_eq_mapValues (properties : Table Property) :
    toValues properties = mapValues toValue properties := by
  induction properties with
  | nil => rfl
  | cons entry rest ih => exact congrArg _ ih

theorem toValue_eq_toValueWith (property : Property) :
    property.toValue =
      property.toValueWith (property.properties.map (mapValues toValue)) := by
  obtain ⟨description, typeName, properties, default, constraints, validator, refusesEmpty⟩ :=
    property
  cases properties with
  | none => rfl
  | some properties => rw [Option.map_some, ← toValues_eq_mapValues]; rfl

/-- What stands under each name of a written property. -/
structure Written (property : Property) (fields : Table Value) : Prop where
  known : (keys fields).Sublist fieldNames
  description : get? fields "description" = some (.str property.description)
  typeName : get? fields "type" = property.typeName.map .str
  properties : get? fields "properties" =
    property.properties.map fun properties => .dict (mapValues toValue properties)
  default : get? fields "default" = property.default
  constraints : get? fields "constraints" =
    if property.constraints.isEmpty then none else some (.dict property.constraints)
  validator : get? fields "validator" = property.validator.map ValidatorSpec.toValue
  refusesEmpty : get? fields "reject_empty" = some (.bool property.refusesEmpty)

theorem toValue_written (property : Property) :
    ∃ fields, property.toValue = .dict fields ∧ Written property fields := by
  rw [toValue_eq_toValueWith, toValueWith]
  refine ⟨_, rfl, ?_⟩
  constructor
  case known =>
    simp only [keys, List.map_append]
    exact ((((((List.Sublist.refl ["description"]).append (keys_toList_map _ _ _)).append
      (keys_toList_map _ _ _)).append (keys_toList_map _ _ _)).append
        (keys_unlessEmpty _ _)).append (keys_toList_map _ _ _)).append (List.Sublist.refl _)
  all_goals
    simp only [get?_append, get?_cons, get?_nil, get?_toList_map, get?_unlessEmpty,
      get?_toList_map property.default (fun value => value)]
    simp [Function.comp_def]

/-! ## Properties that are read back -/

theorem height_of_nested {fields : Table Value} {name : String} {properties : Table Property}
    (hget : get? fields name = some (.dict (mapValues toValue properties)))
    {entry : String × Property} (hentry : entry ∈ properties) :
    (ofValue entry.2.toValue).height + 1 < (ofValue (.dict fields)).height := by
  have hinner : (ofValue entry.2.toValue).height <
      (ofValue (.dict (mapValues toValue properties))).height := by
    have hmem : (entry.1, entry.2.toValue) ∈ mapValues toValue properties :=
      List.mem_map.mpr ⟨entry, hentry, rfl⟩
    exact height_lt_of_mem hmem
  exact Nat.lt_of_le_of_lt hinner (height_lt_of_mem (mem_of_get? hget))

/-- A property is read back from what is written for it, if as much nesting is read as is
written. -/
theorem ofDatum?_toValue (positional : Bool) {depth : Nat} {property : Property}
    (hproperty : property.BindsOnce) (hdepth : (ofValue property.toValue).height ≤ depth) :
    ofDatum? positional depth (ofValue property.toValue) = some property := by
  induction depth generalizing property with
  | zero =>
      obtain ⟨fields, hfields, -⟩ := property.toValue_written
      rw [hfields, ofValue, height] at hdepth
      omega
  | succ depth ih =>
      obtain ⟨fields, hfields, hwritten⟩ := property.toValue_written
      obtain ⟨hdefault, hconstraints, hnested⟩ := bindsOnce_iff.mp hproperty
      rw [hfields] at hdepth ⊢
      have hproperties : defaulted? (mapValues ofValue fields) "properties" none
          (optional? (table? (ofDatum? positional depth))) = some property.properties := by
        refine defaulted?_map hwritten.properties fun properties hsome => ?_
        have hget := hwritten.properties
        rw [hsome] at hget
        obtain ⟨hnodup, hbinds⟩ := hnested properties hsome
        rw [optional?_ofValue (by rintro ⟨⟩), table?_ofValue hnodup fun entry hentry =>
          ih (hbinds entry hentry) (by have := height_of_nested hget hentry; omega)]
        rfl
      have hdescription : defaulted? (mapValues ofValue fields) "description" "" text? =
          some property.description :=
        defaulted?_ofValue hwritten.description "" text?
      have hrefuses : defaulted? (mapValues ofValue fields) "reject_empty" true flag? =
          some property.refusesEmpty :=
        defaulted?_ofValue hwritten.refusesEmpty true flag?
      have htype : defaulted? (mapValues ofValue fields) "type" none (optional? text?) =
          some property.typeName :=
        defaulted?_map hwritten.typeName fun _ _ => rfl
      have hvalue : defaulted? (mapValues ofValue fields) "default" none
          (fun item => item.toValue?.map some) = some property.default := by
        have hget : get? fields "default" = property.default.map id := by
          simpa using hwritten.default
        refine defaulted?_map hget fun value hsome => ?_
        rw [id, toValue?_ofValue (hdefault value hsome)]
        rfl
      rw [ofDatum?, record?_ofValue (by decide) hwritten.known]
      simp only [Option.bind_eq_bind, Option.bind_some, hdescription, htype, hproperties, hvalue,
        hrefuses, defaulted?_valueTable hwritten.constraints hconstraints,
        defaulted?_validator hwritten.validator]
      cases property
      rfl

/-! ## Properties that are read -/

/-- Every property that is read binds each name once. -/
theorem bindsOnce_of_ofDatum? {positional : Bool} {depth : Nat} {datum : Datum}
    {property : Property} (hdatum : datum.BindsOnce)
    (hread : ofDatum? positional depth datum = some property) : property.BindsOnce := by
  induction depth generalizing datum property with
  | zero => cases hread
  | succ depth ih =>
      obtain ⟨record, hrecord, hread⟩ := Option.bind_eq_some_iff.mp hread
      obtain ⟨description, _, hread⟩ := Option.bind_eq_some_iff.mp hread
      obtain ⟨typeName, _, hread⟩ := Option.bind_eq_some_iff.mp hread
      obtain ⟨properties, hproperties, hread⟩ := Option.bind_eq_some_iff.mp hread
      obtain ⟨default, hdefault, hread⟩ := Option.bind_eq_some_iff.mp hread
      obtain ⟨constraints, hconstraints, hread⟩ := Option.bind_eq_some_iff.mp hread
      obtain ⟨validator, _, hread⟩ := Option.bind_eq_some_iff.mp hread
      obtain ⟨refusesEmpty, _, hread⟩ := Option.bind_eq_some_iff.mp hread
      cases hread
      have hentry : ∀ entry ∈ record, entry.2.BindsOnce := fun _ => hdatum.record hrecord
      refine bindsOnce_iff.mpr ⟨?default, ?constraints, ?properties⟩
      case default =>
        rintro value rfl
        obtain ⟨⟨⟩⟩ | ⟨entry, hmem, hvalue⟩ := defaulted?_eq_some hdefault
        obtain ⟨_, hvalue, ⟨⟩⟩ := Option.map_eq_some_iff.mp hvalue
        exact (hentry entry hmem).value hvalue
      case constraints =>
        obtain rfl | ⟨entry, hmem, htable⟩ := defaulted?_eq_some hconstraints
        · exact ⟨List.nodup_nil, trivial⟩
        · exact (hentry entry hmem).valueTable htable
      case properties =>
        rintro nested rfl
        obtain ⟨⟨⟩⟩ | ⟨entry, hmem, htable⟩ := defaulted?_eq_some hproperties
        obtain ⟨hnodup, hnested⟩ := (hentry entry hmem).table (optional?_eq_some htable)
        refine ⟨hnodup, fun inner hinner => ?_⟩
        obtain ⟨item, hitem, hread⟩ := hnested inner hinner
        exact ih hitem hread

end Property

namespace Document

/-! ## Documents -/

/-- Every table in a document binds each of its names once: its context, its properties at any
depth and their constraints and defaults. -/
structure BindsOnce (document : Document) : Prop where
  context : (Value.dict document.context).BindsOnce
  names : (keys document.properties).Nodup
  properties : ∀ entry ∈ document.properties, entry.2.BindsOnce

/-- What stands under each name of a written document. -/
structure Written (document : Document) (fields : Table Value) : Prop where
  known : (keys fields).Sublist fieldNames
  name : get? fields "name" = some (.str document.name)
  version : get? fields "version" = some (.str document.version)
  description : get? fields "description" = some (.str document.description)
  context : get? fields "context" =
    if document.context.isEmpty then none else some (.dict document.context)
  validator : get? fields "validator" = document.validator.map ValidatorSpec.toValue
  properties : get? fields "properties" =
    some (.dict (mapValues Property.toValue document.properties))

theorem toValue_written (document : Document) :
    ∃ fields, document.toValue = .dict fields ∧ Written document fields := by
  rw [toValue, Property.toValues_eq_mapValues]
  refine ⟨_, rfl, ?_⟩
  constructor
  case known =>
    simp only [keys, List.map_append]
    exact (((List.Sublist.refl ["name", "version", "description"]).append
      (keys_unlessEmpty _ _)).append (keys_toList_map _ _ _)).append (List.Sublist.refl _)
  all_goals
    simp only [get?_append, get?_cons, get?_nil, get?_toList_map, get?_unlessEmpty]
    simp

/-- A document is read back from what is written for it. -/
theorem ofDatum?_toValue (positional : Bool) {document : Document}
    (hdocument : document.BindsOnce) :
    ofDatum? positional (Datum.ofValue document.toValue) = some document := by
  obtain ⟨fields, hfields, hwritten⟩ := document.toValue_written
  rw [hfields]
  have hproperties : required? (mapValues Datum.ofValue fields) "properties"
      (table? (Property.ofDatum? positional (Datum.ofValue (.dict fields)).height)) =
        some document.properties := by
    rw [required?_ofValue hwritten.properties]
    refine table?_ofValue hdocument.names fun entry hentry => ?_
    have hheight := Property.height_of_nested hwritten.properties hentry
    exact Property.ofDatum?_toValue positional (hdocument.properties entry hentry) (by omega)
  have hname : required? (mapValues Datum.ofValue fields) "name" text? = some document.name :=
    required?_ofValue hwritten.name text?
  have hversion : required? (mapValues Datum.ofValue fields) "version" text? =
      some document.version :=
    required?_ofValue hwritten.version text?
  have hdescription : required? (mapValues Datum.ofValue fields) "description" text? =
      some document.description :=
    required?_ofValue hwritten.description text?
  rw [ofDatum?, record?_ofValue (by decide) hwritten.known]
  simp only [Option.bind_eq_bind, Option.bind_some, hname, hversion, hdescription, hproperties,
    defaulted?_valueTable hwritten.context hdocument.context,
    defaulted?_validator hwritten.validator]
  rfl

/-- Every document that is read binds each name once. -/
theorem bindsOnce_of_ofDatum? {positional : Bool} {datum : Datum} {document : Document}
    (hdatum : datum.BindsOnce) (hread : ofDatum? positional datum = some document) :
    document.BindsOnce := by
  obtain ⟨record, hrecord, hread⟩ := Option.bind_eq_some_iff.mp hread
  obtain ⟨name, _, hread⟩ := Option.bind_eq_some_iff.mp hread
  obtain ⟨version, _, hread⟩ := Option.bind_eq_some_iff.mp hread
  obtain ⟨description, _, hread⟩ := Option.bind_eq_some_iff.mp hread
  obtain ⟨context, hcontext, hread⟩ := Option.bind_eq_some_iff.mp hread
  obtain ⟨validator, _, hread⟩ := Option.bind_eq_some_iff.mp hread
  obtain ⟨properties, hproperties, hread⟩ := Option.bind_eq_some_iff.mp hread
  cases hread
  have hentry : ∀ entry ∈ record, entry.2.BindsOnce := fun _ => hdatum.record hrecord
  obtain ⟨entry, hmem, htable⟩ := required?_eq_some hproperties
  obtain ⟨hnames, hread⟩ := (hentry entry hmem).table htable
  refine ⟨?_, hnames, fun inner hinner => ?_⟩
  · obtain rfl | ⟨entry, hmem, htable⟩ := defaulted?_eq_some hcontext
    · exact ⟨List.nodup_nil, trivial⟩
    · exact (hentry entry hmem).valueTable htable
  · obtain ⟨item, hitem, hproperty⟩ := hread inner hinner
    exact Property.bindsOnce_of_ofDatum? hitem hproperty

end Document

namespace Yaml

/-! ## Documents as text -/

theorem bindsOnce_of_realValue? {text : String} {value : Value}
    (hvalue : realValue? text = some value) : value.BindsOnce := by
  rw [realValue?] at hvalue
  split at hvalue
  next =>
    cases hvalue
    trivial
  next =>
    obtain ⟨x, _, rfl⟩ := Option.map_eq_some_iff.mp hvalue
    trivial

theorem bindsOnce_of_plainValue? {text : String} {value : Value}
    (hvalue : plainValue? text = some value) : value.BindsOnce := by
  rw [plainValue?] at hvalue
  split at hvalue
  next => cases hvalue; trivial
  next =>
    split at hvalue
    next => cases hvalue; trivial
    next =>
      split at hvalue
      next => cases hvalue; trivial
      next => cases hvalue
      next =>
        split at hvalue
        next => cases hvalue; trivial
        next =>
          cases hreal : realValue? text with
          | none => rw [hreal] at hvalue; cases hvalue; trivial
          | some real =>
              rw [hreal] at hvalue
              cases hvalue
              exact bindsOnce_of_realValue? hreal

theorem bindsOnce_of_taggedValue? {tag text : String} {value : Value}
    (hvalue : taggedValue? tag text = some value) : value.BindsOnce := by
  rw [taggedValue?] at hvalue
  split at hvalue
  next =>
    obtain ⟨_, _, rfl⟩ := Option.map_eq_some_iff.mp hvalue
    trivial
  next =>
    split at hvalue
    next =>
      split at hvalue
      next => cases hvalue; trivial
      next => cases hvalue
    next =>
      split at hvalue
      next => exact bindsOnce_of_realValue? hvalue
      next =>
        repeat' split at hvalue
        all_goals cases hvalue
        all_goals trivial

/-- No scalar is read as a value with tables in it. -/
theorem bindsOnce_readingOf (text : String) (style : Style) (tag : Option String) :
    (Datum.scalar (readingOf text style tag)).BindsOnce := by
  intro value hvalue
  simp only [readingOf] at hvalue
  split at hvalue
  next => exact bindsOnce_of_taggedValue? hvalue
  next =>
    split at hvalue
    next => exact bindsOnce_of_plainValue? hvalue
    next =>
      cases hvalue
      trivial

theorem fst_bind {σ α β : Type} {action : StateM σ α} {next : α → StateM σ β} {P : β → Prop}
    (hnext : ∀ a s, P (next a s).1) (s : σ) : P ((action >>= next) s).1 :=
  hnext (action s).1 (action s).2

/-- What all actions of a list deliver holds of whatever they deliver together. -/
theorem forall_mem_mapM {σ α β : Type} {action : α → StateM σ β} {P : β → Prop}
    (haction : ∀ a s, P (action a s).1) (items : List α) (s : σ) :
    ∀ b ∈ (items.mapM action s).1, P b := by
  induction items generalizing s with
  | nil => exact fun _ hb => absurd hb List.not_mem_nil
  | cons item rest ih =>
      rw [List.mapM_cons]
      exact List.forall_mem_cons.mpr ⟨haction item s, ih (action item s).2⟩

/-- A node means input whose scalars hold no tables, however deep it is read and however many
aliases may be followed. -/
theorem bindsOnce_datumFrom (nodes : List (Nat × Node)) (depth : Nat) (node : Node) (left : Nat) :
    (datumFrom nodes depth node left).1.BindsOnce := by
  have hunreadable : Datum.unreadable.BindsOnce := by rintro _ ⟨⟩
  induction depth generalizing node left with
  | zero =>
      rw [datumFrom]
      refine fst_bind (fun found budget => ?_) left
      split
      next => exact bindsOnce_readingOf _ _ _
      next => exact hunreadable
  | succ depth ih =>
      rw [datumFrom]
      refine fst_bind (fun found budget => ?_) left
      split
      next => exact bindsOnce_readingOf _ _ _
      next => exact bindsOnceIn_iff.mpr (forall_mem_mapM ih _ _)
      next =>
        exact bindsOnceUnder_iff.mpr
          (forall_mem_mapM (P := fun entry : Datum × Datum => entry.2.BindsOnce)
            (fun entry _ => ih entry.2 _) _ _)
      next => exact hunreadable

theorem bindsOnce_datum? {text : String} {datum : Datum} (hdatum : datum? text = some datum) :
    datum.BindsOnce := by
  obtain ⟨tree, _, rfl⟩ := Option.map_eq_some_iff.mp hdatum
  cases tree with
  | none =>
      rintro _ ⟨⟩
      trivial
  | some tree => exact bindsOnce_datumFrom _ _ _ _

end Yaml

namespace Document

/-! ## Writing and reading -/

theorem ofValue_eq_ok {value : Value} {document : Document} :
    ofValue value = .ok document ↔ ofDatum? true (Datum.ofValue value) = some document := by
  rw [ofValue]
  cases ofDatum? true (Datum.ofValue value) <;> simp

theorem ofText_eq_ok {text : String} {document : Document} :
    ofText text = .ok document ↔ (Yaml.datum? text).bind (ofDatum? false) = some document := by
  rw [ofText]
  cases (Yaml.datum? text).bind (ofDatum? false) <;> simp

theorem ofValue_toValue {document : Document} (hdocument : document.BindsOnce) :
    ofValue document.toValue = .ok document :=
  ofValue_eq_ok.mpr (ofDatum?_toValue true hdocument)

/-- Writing a document as a value and reading that value gives the document back, with its
properties, its context and all constraints in their order. So it is for every document whose
tables bind each name once, and for every document that was read of a value or of text. -/
theorem writing_keeps_document :
    (∀ document : Document, document.BindsOnce → ofValue document.toValue = .ok document) ∧
      (∀ (value : Value) (document : Document), ofValue value = .ok document →
        ofValue document.toValue = .ok document) ∧
      ∀ (text : String) (document : Document), ofText text = .ok document →
        ofValue document.toValue = .ok document := by
  refine ⟨fun _ => ofValue_toValue, fun value document hvalue => ?_, fun text document htext => ?_⟩
  · exact ofValue_toValue
      (bindsOnce_of_ofDatum? (bindsOnce_ofValue value) (ofValue_eq_ok.mp hvalue))
  · obtain ⟨datum, hdatum, hread⟩ := Option.bind_eq_some_iff.mp (ofText_eq_ok.mp htext)
    exact ofValue_toValue (bindsOnce_of_ofDatum? (Yaml.bindsOnce_datum? hdatum) hread)

/-- A document with a property in a group whose default is null, with a validator that could
state a mode, and with constraints that are not in the order of their names. -/
def parcelDocument : Document where
  name := "Parcel"
  version := "1.0"
  context := [("limit", .int 3)]
  validator := some (.full "ok = true" none)
  properties := [("contents", { properties := some [("note",
    { typeName := some "string", default := some .null, refusesEmpty := false,
      constraints := [("pattern", .str "x+"), ("max_length", .int 5)] })] })]

theorem writing_keeps_parcelDocument :
    (parcelDocument.BindsOnce ∧ ofValue parcelDocument.toValue = .ok parcelDocument) ∧
      ∃ document, ofText "{name: a, version: b, description: c, properties: {}}" = .ok document ∧
        ofValue document.toValue = .ok document := by
  have hbinds : parcelDocument.BindsOnce :=
    { context := ⟨by decide, trivial, trivial⟩
      names := by decide
      properties := by
        simp [parcelDocument, Property.BindsOnce, Property.BindsOnceWithin,
          Property.BindsOnceUnder, Value.BindsOnce, Value.BindsOnceUnder] }
  have hkept := writing_keeps_document.1 parcelDocument hbinds
  have hagain := writing_keeps_document.2.1 parcelDocument.toValue parcelDocument hkept
  have hread : (ofText "{name: a, version: b, description: c, properties: {}}").isOk := by
    decide +kernel
  cases htext : ofText "{name: a, version: b, description: c, properties: {}}" with
  | error failure =>
      rw [htext] at hread
      cases hread
  | ok document => exact ⟨⟨hbinds, hagain⟩, document, rfl, writing_keeps_document.2.2 _ _ htext⟩

end Document

end SchemaGuard
