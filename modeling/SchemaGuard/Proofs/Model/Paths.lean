import SchemaGuard.Proofs.Model.Attribution
import Mathlib.Data.List.DropRight

/-! # Declared paths

A field of a model is at the path of the names that lead to it, through the groups around it. A
record bears a name that is made from such a path: the names are joined by dots, one group at a
time, and what a group reports about itself becomes a record about the field that holds it.
-/

namespace SchemaGuard

open Outcome

/-! ## Fields at paths -/

/-- The field at a path: one of the model itself, or one at the rest of the path inside a group. -/
inductive Model.At : Model → List String → Field → Prop
  | here {model : Model} {name : String} {field : Field} (hfield : (name, field) ∈ model.fields) :
      At model [name] field
  | inside {model inner : Model} {name : String} {path : List String} {field : Field}
      (hgroup : (name, .group inner) ∈ model.fields) (hfield : At inner path field) :
      At model (name :: path) field

/-- A path with a field at it. -/
def Model.Declares (model : Model) (path : List String) : Prop :=
  ∃ field, model.At path field

namespace Model

theorem At.ne_nil {model : Model} {path : List String} {field : Field}
    (hat : model.At path field) : path ≠ [] := by
  cases hat with
  | here => simp
  | inside => simp

theorem Declares.ne_nil {model : Model} {path : List String} (hpath : model.Declares path) :
    path ≠ [] := by
  obtain ⟨field, hat⟩ := hpath
  exact hat.ne_nil

theorem Declares.of_mem {model : Model} {name : String} {field : Field}
    (hfield : (name, field) ∈ model.fields) : model.Declares [name] :=
  ⟨field, .here hfield⟩

theorem Declares.inside {model inner : Model} {name : String} {path : List String}
    (hgroup : (name, .group inner) ∈ model.fields) (hpath : inner.Declares path) :
    model.Declares (name :: path) := by
  obtain ⟨field, hat⟩ := hpath
  exact ⟨field, .inside hgroup hat⟩

/-- The groups around a field are fields themselves. -/
theorem Declares.of_append {model : Model} {path rest : List String} (hpath : path ≠ [])
    (hdeclares : model.Declares (path ++ rest)) : model.Declares path := by
  induction path generalizing model with
  | nil => exact absurd rfl hpath
  | cons name path ih =>
      obtain ⟨field, hat⟩ := hdeclares
      cases path with
      | nil =>
          cases hat with
          | here hfield => exact .of_mem hfield
          | inside hgroup => exact .of_mem hgroup
      | cons next path =>
          cases hat with
          | inside hgroup hinside => exact .inside hgroup (ih (by simp) ⟨field, hinside⟩)

end Model

/-! ## Names of paths -/

/-- The names of a path joined by dots. -/
def pathName (path : List String) : String :=
  ".".intercalate path

@[simp] theorem pathName_singleton (name : String) : pathName [name] = name :=
  String.intercalate_singleton

theorem pathName_cons {name : String} {path : List String} (hpath : path ≠ []) :
    pathName (name :: path) = name ++ "." ++ pathName path :=
  String.intercalate_cons_of_ne_nil hpath

/-- Names without dots can be read back from what they are joined to. -/
theorem pathName_injective {path other : List String} (hpath : path ≠ []) (hother : other ≠ [])
    (hdots : ∀ name ∈ path, '.' ∉ name.toList) (hdots' : ∀ name ∈ other, '.' ∉ name.toList)
    (hname : pathName path = pathName other) : path = other := by
  have hread {names : List String} (hnames : names ≠ [])
      (hdots : ∀ name ∈ names, '.' ∉ name.toList) :
      (pathName names).toList.splitOn '.' = names.map String.toList := by
    unfold pathName
    rw [String.toList_intercalate]
    exact List.splitOn_intercalate '.' (by simpa using hdots) (by simpa using hnames)
  have hlists : path.map String.toList = other.map String.toList := by
    rw [← hread hpath hdots, ← hread hother hdots', hname]
  exact List.map_injective_iff.mpr (fun _ _ => String.toList_inj.mp) hlists

/-! ## Names of records -/

/-- The name under which the model around a group reports what the group reports under a name. -/
def qualifiedName (outer inner : String) : String :=
  if inner = wholeModel then outer else outer ++ "." ++ inner

theorem FieldError.qualified_eq (outer : String) (error : FieldError) :
    error.qualified outer = ⟨qualifiedName outer error.field, error.message⟩ := by
  unfold FieldError.qualified qualifiedName
  split
  · rfl
  · rfl

@[simp] theorem qualifiedName_wholeModel (outer : String) :
    qualifiedName outer wholeModel = outer :=
  if_pos rfl

theorem qualifiedName_of_ne {outer inner : String} (hinner : inner ≠ wholeModel) :
    qualifiedName outer inner = outer ++ "." ++ inner :=
  if_neg hinner

/-- The name under which a model reports about the field at a path. What it reports about itself,
the field at no path, bears a tag; that of a group is the name of a whole model. -/
def recordName (tag : String) : List String → String
  | [] => tag
  | name :: path => qualifiedName name (recordName wholeModel path)

@[simp] theorem recordName_nil (tag : String) : recordName tag [] = tag := rfl

@[simp] theorem recordName_cons (tag name : String) (path : List String) :
    recordName tag (name :: path) = qualifiedName name (recordName wholeModel path) := rfl

theorem recordName_singleton (tag name : String) : recordName tag [name] = name :=
  qualifiedName_wholeModel name

theorem dot_notMem_wholeModel : '.' ∉ wholeModel.toList := by
  decide

/-- Only a single name can be the one that whole models are reported under. -/
theorem pathName_eq_wholeModel {name : String} {path : List String} :
    pathName (name :: path) = wholeModel ↔ path = [] ∧ name = wholeModel := by
  cases path with
  | nil => simp
  | cons next path =>
      simp only [List.cons_ne_nil, false_and, iff_false]
      intro hname
      apply dot_notMem_wholeModel
      rw [← hname, pathName_cons (List.cons_ne_nil next path)]
      simp

/-- The path under whose name a record about a path stands. A field with the name of whole models
is taken for the group that holds it. -/
def reportedPath : List String → List String
  | [] => []
  | name :: path => name :: path.rdropWhile (· = wholeModel)

@[simp] theorem reportedPath_cons (name : String) (path : List String) :
    reportedPath (name :: path) = name :: path.rdropWhile (· = wholeModel) := rfl

theorem reportedPath_prefix (path : List String) : reportedPath path <+: path := by
  cases path with
  | nil => exact List.prefix_refl []
  | cons name path =>
      rw [reportedPath_cons, List.prefix_cons_inj]
      exact List.rdropWhile_prefix _ _

/-- A record stands under the name of the path itself unless the last of several names is that of
whole models. -/
theorem reportedPath_eq_self_iff (path : List String) :
    reportedPath path = path ↔ path.tail.getLast? ≠ some wholeModel := by
  cases path with
  | nil => simp [reportedPath]
  | cons name path =>
      rw [reportedPath_cons, List.cons_inj_right, List.rdropWhile_eq_self_iff, List.tail_cons]
      cases path using List.reverseRecOn with
      | nil => simp
      | append_singleton path last => simp

theorem rdropWhile_cons (next : String) (path : List String) :
    (next :: path).rdropWhile (· = wholeModel) =
      if path.rdropWhile (· = wholeModel) = [] ∧ next = wholeModel then []
      else next :: path.rdropWhile (· = wholeModel) := by
  unfold List.rdropWhile
  simp only [List.reverse_cons, List.dropWhile_append, List.isEmpty_iff, List.reverse_eq_nil_iff]
  by_cases hrest : path.reverse.dropWhile (· = wholeModel) = []
  · by_cases hnext : next = wholeModel
    · simp [hrest, hnext]
    · simp [hrest, hnext]
  · simp [hrest]

/-- The name of a record is that of the path that the record is taken for. -/
theorem recordName_eq_pathName (tag name : String) (path : List String) :
    recordName tag (name :: path) = pathName (reportedPath (name :: path)) := by
  induction path generalizing tag name with
  | nil => simp
  | cons next path ih =>
      rw [recordName_cons, ih wholeModel next, reportedPath_cons, reportedPath_cons,
        rdropWhile_cons]
      by_cases hwhole : pathName (next :: path.rdropWhile (· = wholeModel)) = wholeModel
      · rw [hwhole, qualifiedName_wholeModel, if_pos (pathName_eq_wholeModel.mp hwhole),
          pathName_singleton]
      · rw [qualifiedName_of_ne hwhole, if_neg (mt pathName_eq_wholeModel.mpr hwhole),
          pathName_cons (List.cons_ne_nil next _)]

/-- A record about a declared path bears the name of a declared path. -/
theorem Model.Declares.reported {model : Model} {path : List String}
    (hpath : model.Declares path) : model.Declares (reportedPath path) := by
  obtain ⟨rest, hrest⟩ := reportedPath_prefix path
  refine .of_append ?_ (hrest ▸ hpath)
  cases path with
  | nil => exact absurd rfl hpath.ne_nil
  | cons name path => exact List.cons_ne_nil _ _

end SchemaGuard
