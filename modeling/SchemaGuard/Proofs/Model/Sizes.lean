import SchemaGuard.Proofs.Constraint.Applicability
import SchemaGuard.Proofs.Model.Mirror

/-! # Sizes in JSON schemas

Four constraints bound the size of a text, a list or a set, and the JSON schema has two keywords for
them. All of the constraints are checked, but a keyword is stated once, by the last constraint that
it stands for. So the schema tells what sizes a field may have, except where a list or a set has two
constraints for one keyword.
-/

namespace SchemaGuard

open Outcome

/-! ## Limits of sizes -/

/-- The two sides on which a size may be limited. -/
inductive Side where
  | least
  | greatest
deriving DecidableEq, Repr

namespace Side

/-- Whether a size keeps to a limit on one side. -/
def Admits : Side → Nat → Nat → Prop
  | least, limit, size => limit ≤ size
  | greatest, limit, size => size ≤ limit

/-- The keyword for the limit on one side of the sizes of a type. -/
def keyword (side : Side) (type : LeafType) : String :=
  match side with
  | least => if type.isCollection then "minItems" else "minLength"
  | greatest => if type.isCollection then "maxItems" else "maxLength"

end Side

/-- The sizes that a JSON schema allows: a size keeps to the limits that the schema has a keyword
for, and a missing keyword is no limit. -/
def AllowsSize (schema : Table Value) (type : LeafType) (size : Nat) : Prop :=
  ∀ side : Side, ∀ bound, Table.get? schema (side.keyword type) = some bound →
    ∃ limit : Nat, bound = .ofNat limit ∧ side.Admits limit size

namespace Constraint

/-- The limit of sizes that a constraint sets. -/
def limit? : Constraint → Option (Side × Nat)
  | minLength size | minItems size => some (.least, size)
  | maxLength size | maxItems size => some (.greatest, size)
  | _ => none

variable {constraint : Constraint} {type : LeafType} {side : Side} {limit size : Nat}
  {value : Value}

theorem holds_iff_admits (hlimit : constraint.limit? = some (side, limit))
    (hsize : size? value = some size) : constraint.holds value = true ↔ side.Admits limit size := by
  cases constraint <;> cases hlimit <;> simp [holds, hsize, Side.Admits]

/-- A constraint that counts items is on a type that has items. -/
def Fits (type : LeafType) : Constraint → Prop
  | minItems _ | maxItems _ => type.isCollection = true
  | _ => True

theorem fits_of_read {name : String} {bound : Value}
    (hread : Constraint.read name bound type = .ok constraint) : constraint.Fits type := by
  obtain ⟨rule, hrule, htype, -⟩ := valid_of_read hread
  obtain ⟨rfl, -⟩ := Prod.mk.inj (declaration_of_read hread)
  cases constraint with
  | minItems size | maxItems size =>
      cases hrule
      exact isCollection_iff.mpr htype
  | _ => trivial

theorem keyword_of_limit (hfits : constraint.Fits type)
    (hlimit : constraint.limit? = some (side, limit)) :
    constraint.keyword type = (side.keyword type, .ofNat limit) := by
  cases constraint with
  | minLength size | maxLength size =>
      cases hlimit
      rfl
  | minItems size | maxItems size =>
      cases hlimit
      have hitems : type.isCollection = true := hfits
      simp [keyword, Side.keyword, hitems]
  | _ => cases hlimit

theorem limit_of_keyword (hkeyword : (constraint.keyword type).1 = side.keyword type) :
    ∃ limit, constraint.limit? = some (side, limit) := by
  unfold keyword Side.keyword at hkeyword
  cases htype : type.isCollection <;> cases side <;> cases constraint <;> simp_all [limit?]

/-- A constraint whose keyword is stated by a later constraint. -/
def Overridden (type : LeafType) (constraints : List Constraint) (constraint : Constraint) : Prop :=
  ∃ before after, constraints = before ++ constraint :: after ∧
    ∃ later ∈ after, (later.keyword type).1 = (constraint.keyword type).1

theorem Overridden.mem {constraints : List Constraint}
    (hoverridden : Overridden type constraints constraint) : constraint ∈ constraints := by
  obtain ⟨before, after, rfl, -⟩ := hoverridden
  exact List.mem_append_right _ List.mem_cons_self

/-- The keyword of a constraint is stated by the constraint itself, unless this is overridden. -/
theorem get?_keywords {constraints : List Constraint} (hmem : constraint ∈ constraints)
    (hlast : ¬ Overridden type constraints constraint) :
    Table.get? (constraints.map (·.keyword type)).reverse (constraint.keyword type).1 =
      some (constraint.keyword type).2 := by
  obtain ⟨before, after, rfl⟩ := List.append_of_mem hmem
  have hafter : Table.get? (after.map (·.keyword type)).reverse (constraint.keyword type).1 =
      none := by
    rw [Table.get?_eq_none_iff]
    intro hkey
    simp only [Table.keys, List.map_reverse, List.mem_reverse, List.map_map, List.mem_map] at hkey
    obtain ⟨later, hlater, hkeyword⟩ := hkey
    exact hlast ⟨before, after, rfl, later, hlater, hkeyword⟩
  rw [List.map_append, List.map_cons, List.reverse_append, List.reverse_cons, Table.get?_append,
    Table.get?_append, hafter, Option.none_or, Table.get?_cons, if_pos rfl, Option.some_or]

/-- On a type without items, constraints with one keyword for sizes have one name. -/
theorem name_eq_of_keyword {later : Constraint} (htype : type.isCollection = false)
    (hfits : constraint.Fits type) (hlater : later.Fits type)
    (hlimit : constraint.limit? = some (side, limit))
    (hkeyword : (later.keyword type).1 = (constraint.keyword type).1) :
    later.name = constraint.name := by
  rw [keyword_of_limit hfits hlimit] at hkeyword
  obtain ⟨limit', hlimit'⟩ := limit_of_keyword hkeyword
  have hitems : ¬ type.isCollection = true := by simp [htype]
  cases constraint with
  | minLength size | maxLength size =>
      cases hlimit
      cases later with
      | minLength size' | maxLength size' => cases hlimit' <;> rfl
      | minItems size' | maxItems size' => exact absurd hlater hitems
      | _ => cases hlimit'
  | minItems size | maxItems size => exact absurd hfits hitems
  | _ => cases hlimit

end Constraint

/-! ## Limits in the schema of a leaf -/

namespace Leaf

variable {leaf : Leaf}

/-- The description of the type has no keyword for sizes. -/
theorem get?_shape (leaf : Leaf) (side : Side) :
    Table.get? leaf.shape (side.keyword leaf.type) = none := by
  unfold shape Side.keyword
  cases leaf.type with
  | scalar type =>
      cases side <;> cases type <;>
        simp [ScalarType.jsonSchema, LeafType.isCollection, Table.get?_cons]
  | list | set =>
      cases side <;> cases leaf.itemType <;> simp [LeafType.isCollection, Table.get?_cons]

theorem get?_withDescription {schema : Table Value} {description name : String}
    (hname : name ≠ "description") :
    Table.get? (withDescription schema description) name = Table.get? schema name := by
  unfold withDescription
  split
  · rfl
  · rw [Table.get?_insert, if_neg hname.symm]

/-- The limits of sizes in the schema are those of the constraints, the last one first. -/
theorem get?_jsonSchema (leaf : Leaf) (side : Side) :
    Table.get? leaf.jsonSchema (side.keyword leaf.type) =
      Table.get? (leaf.constraints.map (·.keyword leaf.type)).reverse
        (side.keyword leaf.type) := by
  have hnames : side.keyword leaf.type ≠ "default" ∧ side.keyword leaf.type ≠ "description" := by
    unfold Side.keyword
    cases side <;> cases leaf.type.isCollection <;> decide
  have hdescribed : Table.get? (withDescription leaf.shape leaf.description)
      (side.keyword leaf.type) = none := by
    rw [get?_withDescription hnames.2, get?_shape]
  rw [jsonSchema, Table.get?_insertAll_reverse]
  split
  · rw [Table.get?_insert, if_neg hnames.1.symm, hdescribed, Option.or_none]
  · rw [hdescribed, Option.or_none]

/-- All limits of sizes are kept just when the size is one that the schema allows, and the limits
that it leaves out are kept. -/
theorem limits_hold_iff (hfits : ∀ constraint ∈ leaf.constraints, constraint.Fits leaf.type)
    {value : Value} {size : Nat} (hsize : Constraint.size? value = some size) :
    (∀ constraint ∈ leaf.constraints, constraint.limit?.isSome → constraint.holds value = true) ↔
      AllowsSize leaf.jsonSchema leaf.type size ∧
        ∀ constraint : Constraint, constraint.limit?.isSome →
          Constraint.Overridden leaf.type leaf.constraints constraint →
            constraint.holds value = true := by
  constructor
  · intro hall
    refine ⟨?_, fun constraint hlimit hoverridden => hall constraint hoverridden.mem hlimit⟩
    intro side bound hbound
    rw [get?_jsonSchema] at hbound
    have hmem := Table.mem_of_get? hbound
    rw [List.mem_reverse, List.mem_map] at hmem
    obtain ⟨constraint, hconstraint, hkeyword⟩ := hmem
    obtain ⟨limit, hlimit⟩ := Constraint.limit_of_keyword (congrArg Prod.fst hkeyword)
    rw [Constraint.keyword_of_limit (hfits constraint hconstraint) hlimit] at hkeyword
    have hholds := hall constraint hconstraint (Option.isSome_of_eq_some hlimit)
    exact ⟨limit, (Prod.mk.inj hkeyword).2.symm,
      (Constraint.holds_iff_admits hlimit hsize).mp hholds⟩
  · rintro ⟨hallows, hoverridden⟩ constraint hconstraint hlimited
    by_cases hover : Constraint.Overridden leaf.type leaf.constraints constraint
    · exact hoverridden constraint hlimited hover
    · obtain ⟨⟨side, limit⟩, hlimit⟩ := Option.isSome_iff_exists.mp hlimited
      have hkeyword := Constraint.get?_keywords hconstraint hover
      rw [Constraint.keyword_of_limit (hfits constraint hconstraint) hlimit,
        ← get?_jsonSchema] at hkeyword
      obtain ⟨shown, hshown, hadmits⟩ := hallows side _ hkeyword
      cases hshown
      exact (Constraint.holds_iff_admits hlimit hsize).mpr hadmits

end Leaf

/-! ## Compiled leaves -/

namespace Property

variable {ev : Evaluator} {context : Table Value} {owner name : String} {property : Property}
  {leaf : Leaf}

theorem compileLeaf_of_compile
    (hcompile : property.compile ev context owner name = .ok (.leaf leaf)) :
    ∃ typeName, compileLeaf ev owner name property typeName = .ok leaf := by
  obtain ⟨description, typeName, nested, default, constraints, spec, refusesEmpty⟩ := property
  cases typeName with
  | none =>
      cases nested with
      | none =>
          rw [compile] at hcompile
          cases hcompile
      | some nested =>
          obtain ⟨_, _, _, _, hgroup⟩ := compile_group_eq_ok.mp hcompile
          cases hgroup
  | some typeName =>
      cases nested with
      | none =>
          obtain ⟨_, hleaf, hfield⟩ := compile_leaf_eq_ok.mp hcompile
          cases hfield
          exact ⟨typeName, hleaf⟩
      | some nested =>
          rw [compile] at hcompile
          cases hcompile

/-- The constraints that are read for a type fit it. -/
theorem fits_of_readConstraints {path : String} {type : LeafType} {declared : Table Value}
    {constraints : List Constraint} (hread : readConstraints path type declared = .ok constraints) :
    ∀ constraint ∈ constraints, constraint.Fits type := by
  induction declared generalizing constraints with
  | nil =>
      cases hread
      exact List.forall_mem_nil _
  | cons entry rest ih =>
      obtain ⟨name, bound⟩ := entry
      rw [readConstraints] at hread
      split at hread
      next => cases hread
      next constraint hconstraint =>
        obtain ⟨others, hothers, hpair⟩ := bind_eq_ok.mp hread
        cases hpair
        exact List.forall_mem_cons.mpr ⟨Constraint.fits_of_read hconstraint, ih hothers⟩

/-- A constraint that is overridden on a type without items has been declared twice. -/
theorem not_overridden {path : String} {type : LeafType} {declared : Table Value}
    {constraints : List Constraint} (hread : readConstraints path type declared = .ok constraints)
    (hnames : (Table.keys declared).Nodup) (htype : type.isCollection = false)
    {constraint : Constraint} (hlimited : constraint.limit?.isSome) :
    ¬ Constraint.Overridden type constraints constraint := by
  rintro ⟨before, after, rfl, later, hlater, hkeyword⟩
  have hfits := fits_of_readConstraints hread
  obtain ⟨⟨side, limit⟩, hlimit⟩ := Option.isSome_iff_exists.mp hlimited
  have hname : later.name = constraint.name := by
    refine Constraint.name_eq_of_keyword htype (hfits _ ?_) (hfits _ ?_) hlimit hkeyword
    · simp
    · simp [hlater]
  rw [← declarations_of_readConstraints hread] at hnames
  simp only [Table.keys, List.map_map, List.map_append, List.map_cons] at hnames
  have hfirst := (List.nodup_cons.mp (List.Nodup.of_append_right hnames)).1
  exact hfirst (List.mem_map.mpr ⟨later, hlater, hname⟩)

/-- The published JSON schema and the checks agree on sizes, except for overridden limits. A coerced
text, list or set passes every declared constraint on its size just when the size is one that the
JSON schema of the field allows, and it passes the constraints whose keyword a later constraint has
taken. A text has none of these, so there the two agree. -/
theorem sizes_published {given value : Value}
    (hcompile : property.compile ev context owner name = .ok (.leaf leaf))
    (htype : Constraint.bearsLength leaf.type = true)
    (hvalue : leaf.type.coerce? given = some value) :
    ∃ size, Constraint.size? value = some size ∧
      ((∀ constraint ∈ leaf.constraints, constraint.limit?.isSome →
          constraint.holds value = true) ↔
        AllowsSize (Field.leaf leaf).schemaTable leaf.type size ∧
          ∀ constraint : Constraint, constraint.limit?.isSome →
            Constraint.Overridden leaf.type leaf.constraints constraint →
              constraint.holds value = true) ∧
      ((Table.keys property.constraints).Nodup → leaf.type.isCollection = false →
        ∀ constraint : Constraint, constraint.limit?.isSome →
          ¬ Constraint.Overridden leaf.type leaf.constraints constraint) := by
  obtain ⟨typeName, hleaf⟩ := compileLeaf_of_compile hcompile
  obtain ⟨type, itemType, constraints, validator, -, hconstraints, -, rfl⟩ :=
    compileLeaf_eq_ok.mp hleaf
  obtain ⟨size, hsize⟩ := LeafType.size?_of_coerce? htype hvalue
  refine ⟨size, hsize, ?_, ?_⟩
  · rw [Field.schemaTable]
    exact Leaf.limits_hold_iff (fits_of_readConstraints hconstraints) hsize
  · intro hnames hcollection constraint hlimited
    exact not_overridden hconstraints hnames hcollection hlimited

/-- A list with two constraints for one keyword. -/
def tagsProperty : Property where
  typeName := some "list"
  constraints := [("min_length", .int 5), ("min_items", .int 2)]

/-- The leaf that it compiles to. -/
def tagsLeaf : Leaf :=
  ⟨"", .list, none, none, [.minLength 5, .minItems 2], none⟩

/-- The schema allows a list of two items, which the first of the constraints does not. -/
theorem tagsProperty_allows_less :
    let tags : Value := .list [.str "a", .str "b"]
    tagsProperty.compile defaultEvaluator [] "Tags" "tags" = .ok (.leaf tagsLeaf) ∧
      AllowsSize (Field.leaf tagsLeaf).schemaTable .list 2 ∧
      ¬ ∀ constraint ∈ tagsLeaf.constraints, constraint.limit?.isSome →
          constraint.holds tags = true := by
  intro tags
  have hdeclared : LeafType.declared "list" = .ok (.list, none) := by rfl
  have hcompile : tagsProperty.compile defaultEvaluator [] "Tags" "tags" =
      .ok (.leaf tagsLeaf) :=
    compile_leaf_eq_ok.mpr ⟨_, compileLeaf_eq_ok.mpr ⟨_, _, _, none, hdeclared, rfl, rfl, rfl⟩, rfl⟩
  have hvalue : LeafType.list.coerce? tags = some tags := rfl
  obtain ⟨size, hsize, hagree, -⟩ := sizes_published hcompile rfl hvalue
  cases hsize
  have hoverridden : Constraint.Overridden .list tagsLeaf.constraints (.minLength 5) :=
    ⟨[], [.minItems 2], rfl, .minItems 2, List.mem_singleton_self _, rfl⟩
  refine ⟨hcompile, ?_, ?_⟩
  · intro side bound hbound
    rw [Field.schemaTable] at hbound
    cases side with
    | least =>
        have hshown : Table.get? tagsLeaf.jsonSchema "minItems" = some (.ofNat 2) := rfl
        cases hshown.symm.trans hbound
        exact ⟨2, rfl, Nat.le_refl 2⟩
    | greatest =>
        have hshown : Table.get? tagsLeaf.jsonSchema "maxItems" = none := rfl
        cases hshown.symm.trans hbound
  · intro hall
    have hfive := (hagree.mp hall).2 (.minLength 5) rfl hoverridden
    cases hfive

end Property

end SchemaGuard
