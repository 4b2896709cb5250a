import SchemaGuard.Proofs.Catalog
import SchemaGuard.Proofs.NameOrder

/-! # The history of a catalog

Which models a catalog holds follows from what has been asked of it. A load puts one model
under the name of its document, a reload puts the documents that are discovered in the place
of all models, and what fails changes nothing. This holds after any number of operations,
with whatever files are there at each of them.
-/

namespace SchemaGuard

open Outcome Table

/-- Models by name. -/
abbrev Holdings := String → Option Model

/-- Puts a model under a name, and leaves all other names alone. -/
def Holdings.put (holdings : Holdings) (name : String) (model : Model) : Holdings :=
  fun other => if name = other then some model else holdings other

/-- The models of a catalog by name. -/
def Catalog.holdings (catalog : Catalog) : Holdings :=
  Table.get? catalog.available

/-! ## Operations -/

/-- What may be asked of a catalog. Files are read as they are at that time. -/
inductive Operation where
  | load (document : Document)
  | loadFile (files : Files) (path : String)
  | reload (files : Files)
  | call (call : Catalog.Call)

/-- The last one of the documents that bear a name. -/
def lastNamed? (found : List Discovered) (name : String) : Option Document :=
  (found.reverse.find? (fun entry => entry.document.name = name)).map (·.document)

namespace Operation

/-- What an operation makes of a catalog. -/
def perform (catalog : Catalog) : Operation → Except Failure Catalog
  | load document => catalog.load document
  | loadFile files path => catalog.loadFile files path
  | reload files => catalog.reload files
  | call request => request.perform catalog

/-- What loading a document makes of the models: its model takes the place of the one with its
name, unless it does not compile. -/
def loaded (ev : Evaluator) (holdings : Holdings) (document : Document) : Holdings :=
  match document.compile ev with
  | .ok model => holdings.put document.name model
  | .error _ => holdings

/-- What a reload makes of the models: there are those of the documents that are found, the last
one for each name, unless one of them does not compile. -/
def reloaded (ev : Evaluator) (holdings : Holdings) (found : List Discovered) : Holdings :=
  if found.all (fun entry => (entry.document.compile ev).isOk) then
    fun name => (lastNamed? found name).bind fun document => (document.compile ev).toOption
  else holdings

/-- What an operation makes of the models by name. -/
def effect (settings : Settings) (holdings : Holdings) : Operation → Holdings
  | load document => loaded settings.evaluator holdings document
  | loadFile files path =>
      match files.readDocument path with
      | .ok document => loaded settings.evaluator holdings document
      | .error _ => holdings
  | reload files =>
      match files.discover settings.schemaPath with
      | .ok found => reloaded settings.evaluator holdings found
      | .error _ => holdings
  | call _ => holdings

end Operation

namespace Catalog

variable {catalog next : Catalog} {settings : Settings}

/-- The catalog after an operation. One that fails changes nothing. -/
def afterOperation (catalog : Catalog) (operation : Operation) : Catalog :=
  match operation.perform catalog with
  | .ok next => next
  | .error _ => catalog

/-- The catalog after operations in their order. -/
def afterOperations (catalog : Catalog) (operations : List Operation) : Catalog :=
  operations.foldl afterOperation catalog

/-! ## Catalogs in order -/

/-- The names of a catalog are in order, each of them leads to a model that bears it, and the
validators of all models have been screened. -/
structure Sound (settings : Settings) (catalog : Catalog) : Prop where
  settings_eq : catalog.settings = settings
  ordered : InNameOrder catalog.names
  named : ∀ name handle, (name, handle) ∈ catalog.names →
    ∃ entry, catalog.entries[handle]? = some entry ∧ entry.model.name = name
  screened : ∀ entry ∈ catalog.entries, ∀ v ∈ entry.model.allValidators, v.Screened

/-- The model with a handle. -/
def modelAt? (catalog : Catalog) (handle : Handle) : Option Model :=
  catalog.entries[handle]?.map Entry.model

theorem available_eq (catalog : Catalog) :
    catalog.available =
      catalog.names.filterMap fun (name, handle) => (catalog.modelAt? handle).map (name, ·) := by
  unfold available modelAt?
  simp only [Option.map_map]
  rfl

namespace Sound

theorem modelAt (hsound : catalog.Sound settings) (name : String) (handle : Handle)
    (hmem : (name, handle) ∈ catalog.names) : ∃ model, catalog.modelAt? handle = some model := by
  obtain ⟨entry, hentry, _⟩ := hsound.named name handle hmem
  exact ⟨entry.model, by rw [modelAt?, hentry]; rfl⟩

theorem keys_available (hsound : catalog.Sound settings) :
    keys catalog.available = catalog.modelNames := by
  rw [available_eq]
  exact keys_filterMap hsound.modelAt

theorem holdings_eq (hsound : catalog.Sound settings) (name : String) :
    catalog.holdings name = (get? catalog.names name).bind catalog.modelAt? := by
  rw [holdings, available_eq]
  exact get?_filterMap hsound.modelAt name

/-- A name is bound to a handle of an entry just when a model is registered under it. -/
theorem holdings_eq_some (hsound : catalog.Sound settings) {name : String} {model : Model} :
    catalog.holdings name = some model ↔ ∃ handle errors,
      get? catalog.names name = some handle ∧
        catalog.entries[handle]? = some ⟨model, errors⟩ := by
  rw [hsound.holdings_eq]
  constructor
  · intro hmodel
    obtain ⟨handle, hhandle, hmodel⟩ := Option.bind_eq_some_iff.mp hmodel
    obtain ⟨⟨_, errors⟩, hentry, rfl⟩ := Option.map_eq_some_iff.mp hmodel
    exact ⟨handle, errors, hhandle, hentry⟩
  · rintro ⟨handle, errors, hhandle, hentry⟩
    rw [hhandle, Option.bind_some, modelAt?, hentry]
    rfl

theorem holdings_eq_none (hsound : catalog.Sound settings) {name : String} :
    catalog.holdings name = none ↔ get? catalog.names name = none := by
  rw [holdings, get?_eq_none_iff, hsound.keys_available, get?_eq_none_iff]
  rfl

/-! ## Single operations -/

theorem register (hsound : catalog.Sound settings) {model : Model}
    (hmodel : ∀ v ∈ model.allValidators, v.Screened) : (catalog.register model).Sound settings := by
  have hname := notMem_keys_erase catalog.names model.name
  constructor
  case settings_eq => exact hsound.settings_eq
  case ordered =>
    refine InNameOrder.insertByName ?_ hname
    rw [InNameOrder, keys_erase]
    exact hsound.ordered.filter _
  case named =>
    intro name handle hmem
    obtain heq | hmem := List.mem_cons.mp ((insertByName_perm _ _ _).mem_iff.mp hmem)
    · cases heq
      exact ⟨⟨model, []⟩, by simp [Catalog.register], rfl⟩
    · obtain ⟨entry, hentry, hentryName⟩ := hsound.named name handle (List.mem_filter.mp hmem).1
      refine ⟨entry, ?_, hentryName⟩
      have hlt := (List.getElem?_eq_some_iff.mp hentry).1
      rw [Catalog.register, List.getElem?_append_left hlt, hentry]
  case screened =>
    intro entry hentry
    obtain hentry | hentry := List.mem_append.mp hentry
    · exact hsound.screened entry hentry
    · rw [List.mem_singleton.mp hentry]
      exact hmodel

theorem holdings_register (hsound : catalog.Sound settings) {model : Model}
    (hmodel : ∀ v ∈ model.allValidators, v.Screened) :
    (catalog.register model).holdings = catalog.holdings.put model.name model := by
  have hname := notMem_keys_erase catalog.names model.name
  funext name
  rw [(hsound.register hmodel).holdings_eq, Holdings.put, Catalog.register,
    get?_insertByName hname, get?_erase]
  by_cases hsame : model.name = name
  · rw [if_pos hsame, if_pos hsame, Option.bind_some, modelAt?]
    simp
  · rw [if_neg hsame, if_neg hsame, if_neg hsame, hsound.holdings_eq]
    cases hhandle : get? catalog.names name with
    | none => rfl
    | some handle =>
        -- The entries that were there before keep their handles.
        obtain ⟨entry, hentry, _⟩ := hsound.named name handle (mem_of_get? hhandle)
        have hlt := (List.getElem?_eq_some_iff.mp hentry).1
        rw [Option.bind_some, Option.bind_some, modelAt?, modelAt?, List.getElem?_append_left hlt]

/-- Remembered errors leave the models alone. -/
theorem remember (hsound : catalog.Sound settings) (handle : Handle) (errors : List FieldError) :
    (catalog.remember handle errors).Sound settings ∧
      (catalog.remember handle errors).holdings = catalog.holdings := by
  have hmodel : ∀ other, (catalog.remember handle errors).modelAt? other =
      catalog.modelAt? other := by
    intro other
    rw [modelAt?, modelAt?, Catalog.remember, List.getElem?_modify]
    cases catalog.entries[other]? with
    | none => rfl
    | some entry => by_cases hother : handle = other <;> simp [hother]
  constructor
  · constructor
    case settings_eq => exact hsound.settings_eq
    case ordered => exact hsound.ordered
    case named =>
      intro name other hmem
      obtain ⟨entry, hentry, hname⟩ := hsound.named name other hmem
      have hother := hmodel other
      rw [modelAt?, modelAt?, hentry, Option.map_some, Option.map_eq_some_iff] at hother
      obtain ⟨entry', hentry', heq⟩ := hother
      exact ⟨entry', hentry', heq ▸ hname⟩
    case screened =>
      intro entry hentry
      obtain ⟨other, hother⟩ := List.mem_iff_getElem?.mp hentry
      have hsame := hmodel other
      rw [modelAt?, modelAt?, hother, Option.map_some, eq_comm, Option.map_eq_some_iff] at hsame
      obtain ⟨entry', hentry', heq⟩ := hsame
      exact heq ▸ hsound.screened entry' (List.mem_of_getElem? hentry')
  · unfold Catalog.holdings
    rw [available_eq, available_eq]
    simp only [hmodel]
    rfl

end Sound

end Catalog

theorem Document.compile_name {ev : Evaluator} {document : Document} {model : Model}
    (hcompile : document.compile ev = .ok model) : model.name = document.name := by
  obtain ⟨_, _, _, _, _, rfl⟩ := Document.compile_eq_ok.mp hcompile
  rfl

namespace Catalog

variable {catalog next : Catalog} {settings : Settings}

theorem sound_ofSettings (hcatalog : ofSettings settings = .ok catalog) :
    catalog.Sound settings ∧ catalog.holdings = fun _ => none := by
  obtain ⟨_, _, hcatalog⟩ := bind_eq_ok.mp hcatalog
  cases hcatalog
  exact ⟨⟨rfl, List.Pairwise.nil, nofun, nofun⟩, rfl⟩

theorem Sound.load (hsound : catalog.Sound settings) {document : Document}
    (hload : catalog.load document = .ok next) :
    next.Sound settings ∧
      next.holdings = Operation.loaded settings.evaluator catalog.holdings document := by
  rw [Catalog.load, hsound.settings_eq] at hload
  obtain ⟨model, hmodel, hnext⟩ := bind_eq_ok.mp hload
  cases hnext
  have hscreened := Document.compile_screened hmodel
  refine ⟨hsound.register hscreened, ?_⟩
  rw [hsound.holdings_register hscreened, Operation.loaded, hmodel, Document.compile_name hmodel]

theorem load_error {failure : Failure} (hsound : catalog.Sound settings) {document : Document}
    (hload : catalog.load document = .error failure) :
    Operation.loaded settings.evaluator catalog.holdings document = catalog.holdings := by
  rw [Catalog.load, hsound.settings_eq] at hload
  unfold Operation.loaded
  cases hmodel : document.compile settings.evaluator with
  | error _ => rfl
  | ok model =>
      rw [hmodel] at hload
      cases hload

/-! ## Reloads -/

theorem compileAll_cons_eq_ok {ev : Evaluator} {entry : Discovered} {rest : List Discovered}
    {models : List Model} :
    compileAll ev (entry :: rest) = .ok models ↔ ∃ model others,
      entry.document.compile ev = .ok model ∧ compileAll ev rest = .ok others ∧
        models = model :: others := by
  simp only [compileAll, bind_eq_ok, pure_eq_ok, Except.ok.injEq]
  constructor
  · rintro ⟨model, hmodel, others, hothers, rfl⟩
    exact ⟨model, others, hmodel, hothers, rfl⟩
  · rintro ⟨model, others, hmodel, hothers, rfl⟩
    exact ⟨model, hmodel, others, hothers, rfl⟩

/-- A list of documents compiles when each of them does. -/
theorem isOk_compileAll (ev : Evaluator) (found : List Discovered) :
    (compileAll ev found).isOk = found.all fun entry => (entry.document.compile ev).isOk := by
  induction found with
  | nil => rfl
  | cons entry rest ih =>
      rw [List.all_cons, ← ih, compileAll]
      cases entry.document.compile ev with
      | error failure => rfl
      | ok model => cases compileAll ev rest <;> rfl

theorem compile_of_mem {ev : Evaluator} {found : List Discovered} {models : List Model}
    (hmodels : compileAll ev found = .ok models) {entry : Discovered} (hentry : entry ∈ found) :
    ∃ model, entry.document.compile ev = .ok model := by
  have hall := isOk_compileAll ev found
  rw [hmodels, eq_comm] at hall
  have hok := List.all_eq_true.mp hall entry hentry
  cases hmodel : entry.document.compile ev with
  | error failure =>
      rw [hmodel] at hok
      cases hok
  | ok model => exact ⟨model, rfl⟩

theorem compiled_of_mem {ev : Evaluator} {found : List Discovered} {models : List Model}
    (hmodels : compileAll ev found = .ok models) {model : Model} (hmodel : model ∈ models) :
    ∃ document : Document, document.compile ev = .ok model := by
  induction found generalizing models with
  | nil =>
      cases hmodels
      cases hmodel
  | cons entry rest ih =>
      obtain ⟨first, others, hfirst, hothers, rfl⟩ := compileAll_cons_eq_ok.mp hmodels
      obtain rfl | hmodel := List.mem_cons.mp hmodel
      · exact ⟨entry.document, hfirst⟩
      · exact ih hothers hmodel

end Catalog

theorem lastNamed?_cons (entry : Discovered) (rest : List Discovered) (name : String) :
    lastNamed? (entry :: rest) name = (lastNamed? rest name).or
      (if entry.document.name = name then some entry.document else none) := by
  rw [lastNamed?, lastNamed?, List.reverse_cons, List.find?_append, List.find?_singleton]
  cases rest.reverse.find? (fun entry => entry.document.name = name) with
  | none => by_cases hname : entry.document.name = name <;> simp [hname]
  | some other => rfl

theorem mem_of_lastNamed? {found : List Discovered} {name : String} {document : Document}
    (hlast : lastNamed? found name = some document) :
    ∃ entry ∈ found, entry.document = document := by
  obtain ⟨entry, hentry, rfl⟩ := Option.map_eq_some_iff.mp hlast
  exact ⟨entry, List.mem_reverse.mp (List.mem_of_find?_eq_some hentry), rfl⟩

namespace Catalog

variable {catalog next : Catalog} {settings : Settings}

/-- Of the models that are registered one after the other, the last one of each name stays. -/
theorem foldl_put {ev : Evaluator} {found : List Discovered} {models : List Model}
    (hmodels : compileAll ev found = .ok models) (holdings : Holdings) (name : String) :
    models.foldl (fun held model => held.put model.name model) holdings name =
      ((lastNamed? found name).bind fun document => (document.compile ev).toOption).or
        (holdings name) := by
  induction found generalizing models holdings with
  | nil =>
      cases hmodels
      rfl
  | cons entry rest ih =>
      obtain ⟨model, others, hmodel, hothers, rfl⟩ := compileAll_cons_eq_ok.mp hmodels
      rw [List.foldl_cons, ih hothers, lastNamed?_cons, Holdings.put, Document.compile_name hmodel]
      cases hlast : lastNamed? rest name with
      | none =>
          by_cases hname : entry.document.name = name
          · simp [hname, hmodel, Except.toOption]
          · simp [hname]
      | some document =>
          obtain ⟨other, hother, rfl⟩ := mem_of_lastNamed? hlast
          obtain ⟨model', hmodel'⟩ := compile_of_mem hothers hother
          simp [hmodel', Except.toOption]

/-- Models that are registered one after the other are put under their names. -/
theorem Sound.foldl_register {models : List Model} (hsound : catalog.Sound settings)
    (hmodels : ∀ model ∈ models, ∀ v ∈ model.allValidators, v.Screened) :
    (models.foldl Catalog.register catalog).Sound settings ∧
      (models.foldl Catalog.register catalog).holdings =
        models.foldl (fun held model => held.put model.name model) catalog.holdings := by
  induction models generalizing catalog with
  | nil => exact ⟨hsound, rfl⟩
  | cons model rest ih =>
      obtain ⟨hmodel, hrest⟩ := List.forall_mem_cons.mp hmodels
      rw [List.foldl_cons, List.foldl_cons, ← hsound.holdings_register hmodel]
      exact ih (hsound.register hmodel) hrest

theorem Sound.reload (hsound : catalog.Sound settings) {files : Files}
    (hreload : catalog.reload files = .ok next) :
    next.Sound settings ∧
      next.holdings = (Operation.reload files).effect settings catalog.holdings := by
  obtain rfl := hsound.settings_eq
  obtain ⟨found, hfound, hreload⟩ := bind_eq_ok.mp hreload
  obtain ⟨models, hmodels, hnext⟩ := bind_eq_ok.mp hreload
  cases hnext
  -- All names are dropped before the models are registered; their entries stay.
  have hcleared : ({ catalog with names := [] } : Catalog).Sound catalog.settings :=
    ⟨rfl, List.Pairwise.nil, nofun, hsound.screened⟩
  have hscreened : ∀ model ∈ models, ∀ v ∈ model.allValidators, v.Screened := by
    intro model hmodel
    obtain ⟨document, hdocument⟩ := compiled_of_mem hmodels hmodel
    exact Document.compile_screened hdocument
  obtain ⟨hlast, hholdings⟩ := hcleared.foldl_register hscreened
  refine ⟨hlast, hholdings.trans ?_⟩
  have hall : found.all (fun entry =>
      (entry.document.compile catalog.settings.evaluator).isOk) = true := by
    rw [← isOk_compileAll, hmodels]
    rfl
  funext name
  simp only [Operation.effect, hfound, Operation.reloaded]
  rw [foldl_put hmodels, if_pos hall]
  exact Option.or_none

theorem reload_error {failure : Failure} (hsound : catalog.Sound settings) {files : Files}
    (hreload : catalog.reload files = .error failure) :
    (Operation.reload files).effect settings catalog.holdings = catalog.holdings := by
  rw [Catalog.reload, hsound.settings_eq] at hreload
  cases hfound : files.discover settings.schemaPath with
  | error _ => simp only [Operation.effect, hfound]
  | ok found =>
      have hall := isOk_compileAll settings.evaluator found
      simp only [Operation.effect, hfound, Operation.reloaded, ← hall]
      rw [hfound, ok_bind] at hreload
      cases hmodels : compileAll settings.evaluator found with
      | error _ => rfl
      | ok models =>
          rw [hmodels] at hreload
          cases hreload

/-! ## Sequences of operations -/

/-- One operation keeps a catalog in order, and has its effect on the models. -/
theorem Sound.afterOperation (hsound : catalog.Sound settings) (operation : Operation) :
    (catalog.afterOperation operation).Sound settings ∧
      (catalog.afterOperation operation).holdings =
        operation.effect settings catalog.holdings := by
  unfold Catalog.afterOperation
  cases hperform : operation.perform catalog with
  | ok next =>
      cases operation with
      | load document => exact hsound.load hperform
      | loadFile files path =>
          obtain ⟨document, hdocument, hload⟩ := bind_eq_ok.mp hperform
          simp only [Operation.effect, hdocument]
          exact hsound.load hload
      | reload files => exact hsound.reload hperform
      | call request =>
          obtain ⟨handle, errors, rfl⟩ := remembered_of_perform hperform
          exact hsound.remember handle errors
  | error failure =>
      refine ⟨hsound, Eq.symm ?_⟩
      cases operation with
      | load document => exact load_error hsound hperform
      | loadFile files path =>
          cases hdocument : files.readDocument path with
          | error _ => simp only [Operation.effect, hdocument]
          | ok document =>
              have hload : catalog.load document = .error failure := by
                rwa [Operation.perform, loadFile, hdocument] at hperform
              simp only [Operation.effect, hdocument]
              exact load_error hsound hload
      | reload files => exact reload_error hsound hperform
      | call request => rfl

/-- Operations keep a catalog in order, and have their effects on the models one by one. -/
theorem Sound.afterOperations (hsound : catalog.Sound settings) (operations : List Operation) :
    (catalog.afterOperations operations).Sound settings ∧
      (catalog.afterOperations operations).holdings =
        operations.foldl (Operation.effect settings) catalog.holdings := by
  induction operations generalizing catalog with
  | nil => exact ⟨hsound, rfl⟩
  | cons operation rest ih =>
      obtain ⟨hnext, heffect⟩ := hsound.afterOperation operation
      obtain ⟨hlast, hholdings⟩ := ih hnext
      exact ⟨hlast, hholdings.trans (by rw [heffect]; rfl)⟩

/-! ## What a history leaves -/

/-- A catalog that has just been made, and the history of its making: one that searches for
documents begins with a reload. -/
inductive Opens (settings : Settings) : Catalog → List Operation → Prop
  | made {catalog : Catalog} (hcatalog : ofSettings settings = .ok catalog) :
      Opens settings catalog []
  | started {catalog : Catalog} {files : Files} (hcatalog : start settings files = .ok catalog) :
      Opens settings catalog (if settings.disableDiscovery then [] else [.reload files])

/-- The models by name that a history leaves. -/
def holdingsOf (settings : Settings) (history : List Operation) : Holdings :=
  history.foldl (Operation.effect settings) fun _ => none

/-- A catalog answers for models by name: they are the available ones, in the order of their names
and each under its own; every one of them is found and validates data, and no other name is
known. -/
structure Serves (catalog : Catalog) (holdings : Holdings) : Prop where
  available : ∀ name, get? catalog.available name = holdings name
  ordered : InNameOrder catalog.available
  named : ∀ name model, holdings name = some model → model.name = name
  found : ∀ name model, holdings name = some model → ∃ handle errors,
    catalog.find name = .ok handle ∧ catalog.entry handle = .ok ⟨model, errors⟩
  validated : ∀ name model, holdings name = some model → ∀ data, ∃ results next,
    model.validate data = .ok results ∧ catalog.validateNamed name data = .ok (results, next)
  missing : ∀ name, holdings name = none → catalog.find name = .error (.unknownSchema name) ∧
    ∀ data, catalog.validateNamed name data = .error (.unknownSchema name)

theorem Opens.sound {opening : List Operation} (hopens : Opens settings catalog opening) :
    catalog.Sound settings ∧ catalog.holdings = holdingsOf settings opening := by
  cases hopens with
  | made hcatalog => exact sound_ofSettings hcatalog
  | started hcatalog =>
      obtain ⟨empty, hempty, hstart⟩ := bind_eq_ok.mp hcatalog
      obtain ⟨hsound, hnone⟩ := sound_ofSettings hempty
      by_cases hdisabled : settings.disableDiscovery = true
      · rw [if_pos hdisabled] at hstart ⊢
        cases hstart
        exact ⟨hsound, hnone⟩
      · rw [if_neg hdisabled] at hstart ⊢
        rw [holdingsOf, List.foldl_cons, List.foldl_nil, ← hnone]
        exact hsound.reload hstart

theorem Sound.serves (hsound : catalog.Sound settings) : catalog.Serves catalog.holdings := by
  have hfind : ∀ name model, catalog.holdings name = some model → ∃ handle errors,
      catalog.find name = .ok handle ∧ catalog.entry handle = .ok ⟨model, errors⟩ := by
    intro name model hmodel
    obtain ⟨handle, errors, hhandle, hentry⟩ := hsound.holdings_eq_some.mp hmodel
    exact ⟨handle, errors, by rw [find, hhandle], by rw [entry, hentry]⟩
  have hmissing : ∀ name, catalog.holdings name = none →
      catalog.find name = .error (.unknownSchema name) := by
    intro name hname
    rw [find, hsound.holdings_eq_none.mp hname]
  constructor
  case available => exact fun name => rfl
  case ordered =>
    rw [InNameOrder, hsound.keys_available]
    exact hsound.ordered
  case named =>
    intro name model hmodel
    obtain ⟨handle, errors, hhandle, hentry⟩ := hsound.holdings_eq_some.mp hmodel
    obtain ⟨entry, hentry', hname⟩ := hsound.named name handle (mem_of_get? hhandle)
    rw [hentry] at hentry'
    cases hentry'
    exact hname
  case found => exact hfind
  case validated =>
    intro name model hmodel data
    obtain ⟨handle, errors, hhandle, hentry⟩ := hfind name model hmodel
    obtain ⟨_, _, _, hmem⟩ := hsound.holdings_eq_some.mp hmodel
    -- Screened validators use no refused capability, so the pass comes to its end.
    obtain ⟨pass, hrun⟩ : ∃ pass, model.run data = .ok pass :=
      Model.pass_ok model model.name data (hsound.screened _ (List.mem_of_getElem? hmem))
    refine ⟨_, catalog.remember handle pass.report.errors, Model.validate_ok hrun, ?_⟩
    rw [validateNamed, hhandle, ok_bind, validate_eq hentry, hrun, map_ok]
  case missing =>
    intro name hname
    refine ⟨hmissing name hname, fun data => ?_⟩
    rw [validateNamed, hmissing name hname, error_bind]

end Catalog

end SchemaGuard
