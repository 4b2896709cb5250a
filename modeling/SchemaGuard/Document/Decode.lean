import SchemaGuard.Datum
import SchemaGuard.Document
import SchemaGuard.Yaml.Meaning

/-! # Decoding documents

A document is decoded from a value or from text. Both are records with the same entries;
unknown entries are ignored. A value may list the entries of a record by position.
-/

namespace SchemaGuard

namespace ValidatorSpec

/-- The entries of a validator that states its mode. -/
def fieldNames : List String := ["source", "mode"]

/-- The modes in the order in which they may be counted. -/
def modeNames : List String := ["before", "after", "wrap"]

/-- The name that a value is or counts in a list of names; a number that counts none of them
stands for a name of its own. -/
def nameAmong? (names : List String) : Value → Option String
  | .str name => some name
  | .int (.ofNat n) => some (names.getD n "")
  | _ => none

/-- A mode by its name, or as the only name of a mapping with nothing under it. -/
def modeOf? (datum : Datum) : Option (Option Mode) :=
  match datum, datum.toValue? with
  | .mapping [(key, item)] _, some _ =>
      match key.toValue?.bind (nameAmong? modeNames), item.toValue? with
      | some name, some .null => (Mode.ofName? name).map some
      | _, _ => none
  | _, some .null => some none
  | _, some (.str name) => (Mode.ofName? name).map some
  | _, _ => none

/-- The entries of a validator that states its mode, each of them readable. -/
def recordOf? : List (Datum × Datum) → Option (Table Datum)
  | [] => some []
  | (key, item) :: rest => do
      let name ← key.toValue?.bind (nameAmong? fieldNames)
      let record ← recordOf? rest
      let _ ← item.toValue?
      if !fieldNames.contains name then pure record
      else if Table.contains record name then none
      else pure ((name, item) :: record)

/-- A validator: its source, or a table of its source and its mode. -/
def ofDatum? (datum : Datum) : Option ValidatorSpec :=
  match datum with
  | .mapping entries false => do
      let record ← recordOf? entries
      let text ← Datum.required? record "source" (fun item => item.toValue?.bind Value.str?)
      let mode ← Datum.defaulted? record "mode" none modeOf?
      pure (full text mode)
  | datum => (datum.toValue?.bind Value.str?).map source

end ValidatorSpec

namespace Property

/-- The entries of a property. -/
def fieldNames : List String :=
  ["description", "type", "properties", "default", "constraints", "validator", "reject_empty"]

/-- A property. The first argument bounds its nesting. -/
def ofDatum? (positional : Bool) : Nat → Datum → Option Property
  | 0, _ => none
  | depth + 1, datum => do
      let record ← datum.record? positional fieldNames
      let description ← Datum.defaulted? record "description" "" Datum.text?
      let typeName ← Datum.defaulted? record "type" none (Datum.optional? Datum.text?)
      let properties ← Datum.defaulted? record "properties" none
        (Datum.optional? (Datum.table? (ofDatum? positional depth)))
      let default ← Datum.defaulted? record "default" none (fun item => item.toValue?.map some)
      let constraints ← Datum.defaulted? record "constraints" [] Datum.valueTable?
      let validator ← Datum.defaulted? record "validator" none
        (Datum.optional? ValidatorSpec.ofDatum?)
      let refusesEmpty ← Datum.defaulted? record "reject_empty" true Datum.flag?
      pure { description, typeName, properties, default, constraints, validator, refusesEmpty }

end Property

namespace Document

/-- The entries of a document. -/
def fieldNames : List String :=
  ["name", "version", "description", "context", "validator", "properties"]

/-- A document. -/
def ofDatum? (positional : Bool) (datum : Datum) : Option Document := do
  let record ← datum.record? positional fieldNames
  let name ← Datum.required? record "name" Datum.text?
  let version ← Datum.required? record "version" Datum.text?
  let description ← Datum.required? record "description" Datum.text?
  let context ← Datum.defaulted? record "context" [] Datum.valueTable?
  let validator ← Datum.defaulted? record "validator" none
    (Datum.optional? ValidatorSpec.ofDatum?)
  let properties ← Datum.required? record "properties"
    (Datum.table? (Property.ofDatum? positional datum.height))
  pure { name, version, description, context, validator, properties }

/-- What is said of input that is no document. -/
def malformed : String := "not a schema document"

/-- The document that a value is. -/
def ofValue (value : Value) : Except Failure Document :=
  match ofDatum? true (Datum.ofValue value) with
  | some document => .ok document
  | none => .error (.document none malformed)

/-- The document that a text holds. -/
def ofText (text : String) : Except Failure Document :=
  match (Yaml.datum? text).bind (ofDatum? false) with
  | some document => .ok document
  | none => .error (.document none malformed)

end Document

end SchemaGuard
