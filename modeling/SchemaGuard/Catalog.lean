import SchemaGuard.Discovery
import SchemaGuard.Model.Compile
import SchemaGuard.Model.Run
import SchemaGuard.Settings

/-! # Catalogs

A catalog holds compiled models by name. Loading a document puts its model in the place of
one with the same name, and a reload replaces all of them at once or, if any document
fails, none. A handle that was taken before stays good for the model it was taken for. Each
model remembers the errors of the last validation.
-/

namespace SchemaGuard

/-- A model and the errors that its last validation reported. -/
structure Entry where
  model : Model
  lastErrors : List FieldError := []

/-- A handle for an entry of a catalog. -/
abbrev Handle := Nat

/-- Entries by handle, and handles by name in the order of names. Entries are never taken away. -/
structure Catalog where
  settings : Settings
  entries : List Entry := []
  names : Table Handle := []

namespace Catalog

/-- The catalog without entries. -/
def ofSettings (settings : Settings) : Except Failure Catalog := do
  settings.check
  pure { settings }

/-- The handle of the model with a name. -/
def find (catalog : Catalog) (name : String) : Except Failure Handle :=
  match Table.get? catalog.names name with
  | some handle => .ok handle
  | none => .error (.unknownSchema name)

/-- The entry of a handle. -/
def entry (catalog : Catalog) (handle : Handle) : Except Failure Entry :=
  match catalog.entries[handle]? with
  | some entry => .ok entry
  | none => .error (.unknownSchema (toString handle))

/-- The names of the models in order. -/
def modelNames (catalog : Catalog) : List String :=
  Table.keys catalog.names

/-- The models by name, in the order of names. -/
def available (catalog : Catalog) : Table Model :=
  catalog.names.filterMap (fun (name, handle) =>
    catalog.entries[handle]?.map (fun entry => (name, entry.model)))

/-- Adds a model in the place of one with the same name. -/
def register (catalog : Catalog) (model : Model) : Catalog :=
  let others := Table.erase catalog.names model.name
  { catalog with
    entries := catalog.entries ++ [{ model }]
    names := insertByName model.name catalog.entries.length others }

/-- Compiles a document and adds its model. -/
def load (catalog : Catalog) (document : Document) : Except Failure Catalog := do
  let model ← document.compile catalog.settings.evaluator
  pure (catalog.register model)

/-- Compiles the document in a file and adds its model. -/
def loadFile (catalog : Catalog) (files : Files) (path : String) :
    Except Failure Catalog := do
  let document ← files.readDocument path
  catalog.load document

/-- Compiles documents in order. -/
def compileAll (ev : Evaluator) : List Discovered → Except Failure (List Model)
  | [] => .ok []
  | found :: rest => do
      let model ← found.document.compile ev
      let models ← compileAll ev rest
      pure (model :: models)

/-- The catalog with the documents that are discovered, and no others. Of two documents with one
name the later one counts. -/
def reload (catalog : Catalog) (files : Files) : Except Failure Catalog := do
  let found ← files.discover catalog.settings.schemaPath
  let models ← compileAll catalog.settings.evaluator found
  pure (models.foldl register { catalog with names := [] })

/-- The names of the models after a reload, with the catalog that it leaves. -/
def reloadNames (catalog : Catalog) (files : Files) :
    Except Failure (List String × Catalog) := do
  let catalog ← catalog.reload files
  pure (catalog.modelNames, catalog)

/-- The catalog with the documents that are discovered, unless settings turn discovery off. -/
def start (settings : Settings) (files : Files) : Except Failure Catalog := do
  let catalog ← ofSettings settings
  if settings.disableDiscovery then pure catalog else catalog.reload files

/-- Remembers the errors that an entry reported. -/
def remember (catalog : Catalog) (handle : Handle) (errors : List FieldError) : Catalog :=
  { catalog with
    entries := catalog.entries.modify handle (fun entry => { entry with lastErrors := errors }) }

/-- Validates data and remembers the errors. -/
def validate (catalog : Catalog) (handle : Handle) (data : Value) :
    Except Failure (Results × Catalog) := do
  let entry ← catalog.entry handle
  let results ← entry.model.validate data
  pure (results, catalog.remember handle results.report.errors)

/-- Validates data against the model with a name. -/
def validateNamed (catalog : Catalog) (name : String) (data : Value) :
    Except Failure (Results × Catalog) := do
  let handle ← catalog.find name
  catalog.validate handle data

/-- Builds an instance from data and remembers the errors; data that is not valid gives none. -/
def build (catalog : Catalog) (handle : Handle) (data : Value) :
    Except Failure (Option Instance × Catalog) := do
  let entry ← catalog.entry handle
  let pass ← entry.model.run data
  let catalog := catalog.remember handle pass.report.errors
  if pass.isValid then
    let made ← entry.model.instanceOf pass
    pure (some made, catalog)
  else
    pure (none, catalog)

end Catalog

end SchemaGuard
