import SchemaGuard.Proofs.Model.Declarations
import SchemaGuard.Proofs.Model.Faults

/-! # Telling fields apart by their records

The name of a record is made from the path of a field. Two paths share a name just when a field
inside of a group has the name of whole models, so that it is taken for the group, or when the
same text results from joining different names by dots.
-/

namespace SchemaGuard

open Outcome

/-- A model no two fields of which are reported under one name. -/
def Model.TellsApart (model : Model) : Prop :=
  ∀ first second, model.Declares first → model.Declares second →
    recordName model.name first = recordName model.name second → first = second

/-- A model no two fields of which have paths with the same name. -/
def Model.NamesPathsApart (model : Model) : Prop :=
  ∀ first second, model.Declares first → model.Declares second →
    pathName first = pathName second → first = second

/-! ## Names at paths -/

theorem recordName_concat_wholeModel {path : List String} (tag : String) (hpath : path ≠ []) :
    recordName tag (path ++ [wholeModel]) = recordName tag path := by
  cases path with
  | nil => exact absurd rfl hpath
  | cons name path =>
      rw [List.cons_append, recordName_eq_pathName, recordName_eq_pathName, reportedPath_cons,
        reportedPath_cons, List.rdropWhile_concat_pos _ _ _ (by simp)]

theorem reportedPath_of_notMem {path : List String} (hnames : wholeModel ∉ path.tail) :
    reportedPath path = path := by
  rw [reportedPath_eq_self_iff]
  intro hlast
  exact hnames (List.mem_of_getLast? hlast)

namespace Model

variable {model : Model}

theorem Declares.recordName_eq {path : List String} (hpath : model.Declares path) (tag : String) :
    recordName tag path = pathName (reportedPath path) := by
  cases path with
  | nil => exact absurd rfl hpath.ne_nil
  | cons name path => exact recordName_eq_pathName tag name path

/-- A model tells its fields apart just when none inside of a group has the name of whole models,
and different paths have different names. -/
theorem tellsApart_iff : model.TellsApart ↔
    (∀ path, model.Declares path → wholeModel ∉ path.tail) ∧ model.NamesPathsApart := by
  constructor
  · intro happart
    have hnames : ∀ path, model.Declares path → wholeModel ∉ path.tail := by
      intro path hpath hmem
      cases path with
      | nil => cases hmem
      | cons name path =>
          -- The path up to the field in question bears the name of the path of its group.
          obtain ⟨before, after, rfl⟩ := List.append_of_mem hmem
          have hgroup : name :: before ≠ [] := List.cons_ne_nil name before
          have hsplit : name :: (before ++ wholeModel :: after) =
              (name :: before ++ [wholeModel]) ++ after := by simp
          have hinside := Declares.of_append (by simp) (hsplit ▸ hpath)
          have hsame := happart _ _ hinside (hinside.of_append hgroup)
            (recordName_concat_wholeModel model.name hgroup)
          simp at hsame
    refine ⟨hnames, fun first second hfirst hsecond hjoined => ?_⟩
    apply happart first second hfirst hsecond
    rw [hfirst.recordName_eq, hsecond.recordName_eq, reportedPath_of_notMem (hnames _ hfirst),
      reportedPath_of_notMem (hnames _ hsecond), hjoined]
  · rintro ⟨hnames, hjoined⟩ first second hfirst hsecond hrecord
    rw [hfirst.recordName_eq, hsecond.recordName_eq, reportedPath_of_notMem (hnames _ hfirst),
      reportedPath_of_notMem (hnames _ hsecond)] at hrecord
    exact hjoined first second hfirst hsecond hrecord

end Model

/-! ## Names of properties -/

/-- The tables inside of a property are among those inside of its table. -/
theorem Property.mem_tablesOfAll {properties : List (String × Property)} {name : String}
    {property : Property} {table : Table Property} (hproperty : (name, property) ∈ properties)
    (htable : table ∈ property.tables) : table ∈ tablesOfAll properties := by
  induction properties with
  | nil => cases hproperty
  | cons entry rest ih =>
      obtain ⟨first, other⟩ := entry
      rw [tablesOfAll, List.mem_append]
      rcases List.mem_cons.mp hproperty with heq | hmem
      · cases heq
        exact .inl htable
      · exact .inr (ih hmem)

/-- A group is compiled from the properties of the property. -/
theorem Property.nested_of_compile {ev : Evaluator} {context : Table Value} {owner name : String}
    {property : Property} {inner : Model}
    (hcompile : property.compile ev context owner name = .ok (.group inner)) :
    ∃ nested, property.tables = nested :: tablesOfAll nested ∧
      compileAll ev context name nested = .ok inner.fields := by
  obtain ⟨description, _ | typeName, _ | nested, default, constraints, validator, refusesEmpty⟩ :=
    property
  · rw [compile] at hcompile
    cases hcompile
  · obtain ⟨fields, _, hfields, _, hgroup⟩ := compile_group_eq_ok.mp hcompile
    cases hgroup
    exact ⟨nested, by rw [tables], hfields⟩
  · obtain ⟨_, _, hleaf⟩ := compile_leaf_eq_ok.mp hcompile
    cases hleaf
  · rw [compile] at hcompile
    cases hcompile

/-- The names of a declared path are those of properties: the first one is that of a property of
the document itself, and the others are those of properties inside of it. -/
theorem Property.names_of_at {ev : Evaluator} {context : Table Value} {model : Model}
    {path : List String} {field : Field} (hat : model.At path field)
    {properties : List (String × Property)} {owner : String}
    (hcompile : compileAll ev context owner properties = .ok model.fields) :
    (∀ name ∈ path.head?, name ∈ Table.keys properties) ∧
      ∀ name ∈ path.tail, ∃ table ∈ tablesOfAll properties, name ∈ Table.keys table := by
  induction hat generalizing properties owner with
  | here hfield =>
      obtain ⟨property, hproperty, _⟩ := mem_compileAll hcompile hfield
      refine ⟨?_, by simp⟩
      rintro _ ⟨⟩
      exact List.mem_map_of_mem hproperty
  | @inside model inner name path field hgroup hinside ih =>
      obtain ⟨property, hproperty, hinner⟩ := mem_compileAll hcompile hgroup
      refine ⟨?_, ?_⟩
      · rintro _ ⟨⟩
        exact List.mem_map_of_mem hproperty
      · obtain ⟨nested, htables, hfields⟩ := nested_of_compile hinner
        obtain ⟨hhead, htail⟩ := ih hfields
        have hmem {table : Table Property} (htable : table ∈ nested :: tablesOfAll nested) :
            table ∈ tablesOfAll properties :=
          mem_tablesOfAll hproperty (htables ▸ htable)
        intro found hfound
        cases path with
        | nil => cases hfound
        | cons next path =>
            rcases List.mem_cons.mp hfound with rfl | hfound
            · exact ⟨nested, hmem List.mem_cons_self, hhead _ rfl⟩
            · obtain ⟨table, htable, hname⟩ := htail found hfound
              exact ⟨table, hmem (List.mem_cons_of_mem _ htable), hname⟩

namespace Document

/-- No property has a dot in its name, and none inside of another one has the name of whole
models. -/
structure PlainNames (document : Document) : Prop where
  dots : ∀ table ∈ document.tables, ∀ name ∈ Table.keys table, '.' ∉ name.toList
  whole : ∀ table ∈ Property.tablesOfAll document.properties, wholeModel ∉ Table.keys table

variable {ev : Evaluator} {document : Document} {model : Model}

theorem names_of_declares (hcompile : document.compile ev = .ok model) {path : List String}
    (hpath : model.Declares path) :
    (∀ name ∈ path.head?, name ∈ Table.keys document.properties) ∧ ∀ name ∈ path.tail,
      ∃ table ∈ Property.tablesOfAll document.properties, name ∈ Table.keys table := by
  obtain ⟨_, fields, validator, hfields, _, rfl⟩ := Document.compile_eq_ok.mp hcompile
  obtain ⟨field, hat⟩ := hpath
  exact Property.names_of_at hat hfields

/-- A document with plain names tells its fields apart. -/
theorem PlainNames.tellsApart (hplain : document.PlainNames)
    (hcompile : document.compile ev = .ok model) : model.TellsApart := by
  have hdots : ∀ path, model.Declares path → ∀ name ∈ path, '.' ∉ name.toList := by
    intro path hpath name hmem
    obtain ⟨hhead, htail⟩ := names_of_declares hcompile hpath
    cases path with
    | nil => cases hmem
    | cons first path =>
        rcases List.mem_cons.mp hmem with rfl | hmem
        · exact hplain.dots _ List.mem_cons_self name (hhead name rfl)
        · obtain ⟨table, htable, hkey⟩ := htail name hmem
          exact hplain.dots table (List.mem_cons_of_mem _ htable) name hkey
  refine Model.tellsApart_iff.mpr ⟨?_, ?_⟩
  · intro path hpath hmem
    obtain ⟨table, htable, hkey⟩ := (names_of_declares hcompile hpath).2 wholeModel hmem
    exact hplain.whole table htable hkey
  · intro first second hfirst hsecond hname
    exact pathName_injective hfirst.ne_nil hsecond.ne_nil (hdots first hfirst)
      (hdots second hsecond) hname

/-- Where fields are told apart, a record with the name of a field is about that field, or about the
model as a whole if this has the same name. -/
theorem mem_run_of_tellsApart (hcompile : document.compile ev = .ok model)
    (happart : model.TellsApart) {data : Value} {pass : Pass} (hrun : model.run data = .ok pass)
    {path : List String} (hpath : model.Declares path) (message : String) :
    ⟨recordName model.name path, message⟩ ∈ pass.report.errors ↔
      model.Faults data path message ∨
        recordName model.name path = model.name ∧ model.Faults data [] message := by
  rw [(Document.compile_attributed hcompile).reportsFaults hrun]
  constructor
  · rintro ⟨other, found, hfault, hrecord⟩
    obtain ⟨hname, rfl⟩ := FieldError.mk.inj hrecord
    rcases hfault.declares with rfl | hother
    · exact .inr ⟨hname, hfault⟩
    · cases happart path other hpath hother hname
      exact .inl hfault
  · rintro (hfault | ⟨hname, hfault⟩)
    · exact ⟨path, message, hfault, rfl⟩
    · exact ⟨[], message, hfault, by rw [hname, recordName_nil]⟩

/-- The records of a run are what is wrong with its data, under the names of the paths at which it
is wrong. No two fields share such a name just when none inside of a group has the name of whole
models and no two paths have the same name, and so it is in documents with plain names. -/
theorem record_names_tell_fields_apart (hcompile : document.compile ev = .ok model) :
    (∀ {data pass}, model.run data = .ok pass → ∀ error, error ∈ pass.report.errors ↔
      ∃ path message, model.Faults data path message ∧
        error = ⟨recordName model.name path, message⟩) ∧
    (model.TellsApart ↔
      (∀ path, model.Declares path → wholeModel ∉ path.tail) ∧ model.NamesPathsApart) ∧
    (document.PlainNames → model.TellsApart ∧
      ∀ {data pass}, model.run data = .ok pass → ∀ path, model.Declares path → ∀ message,
        ⟨recordName model.name path, message⟩ ∈ pass.report.errors ↔
          model.Faults data path message ∨
            recordName model.name path = model.name ∧ model.Faults data [] message) := by
  refine ⟨?_, Model.tellsApart_iff, fun hplain => ?_⟩
  · intro data pass hrun
    exact (Document.compile_attributed hcompile).reportsFaults hrun
  · have happart := hplain.tellsApart hcompile
    exact ⟨happart, fun hrun path hpath => mem_run_of_tellsApart hcompile happart hrun hpath⟩

end Document

/-- The address and its city are told apart. -/
theorem addressDocument_tells_fields_apart :
    ∃ model, addressDocument.compile (.withBuiltins {} .restricted) = .ok model ∧
      model.TellsApart := by
  obtain ⟨model, hcompile⟩ := addressDocument_compile
  refine ⟨model, hcompile, ((Document.record_names_tell_fields_apart hcompile).2.2 ?_).1⟩
  exact ⟨by decide, by decide⟩

end SchemaGuard
