import SchemaGuard.Proofs.Model.Acceptance
import SchemaGuard.Proofs.Validator.ItemEffect

/-! # What properties declare

A property declares a type, a default, constraints and a validator, and a leaf is compiled from
them. The value that such a leaf is accepted with is made by its validator before coercion, by
its type, and by a validator after coercion, which is the check of the items where the
document states no validator itself.
-/

namespace SchemaGuard

open Outcome

/-! ## Values that a declaration admits -/

/-- A value that a type and declared constraints admit as it is. -/
structure LeafType.Admits (type : LeafType) (declared : Table Value) (value : Value) : Prop where
  coerced : type.coerce? value = some value
  satisfied : ∀ entry ∈ declared, ∃ constraint,
    Constraint.read entry.1 entry.2 type = .ok constraint ∧ constraint.holds value = true

theorem Property.readConstraints_holds {path : String} {type : LeafType} {declared : Table Value}
    {constraints : List Constraint}
    (hread : readConstraints path type declared = .ok constraints) (value : Value) :
    (∀ constraint ∈ constraints, constraint.holds value = true) ↔
      ∀ entry ∈ declared, ∃ constraint,
        Constraint.read entry.1 entry.2 type = .ok constraint ∧ constraint.holds value = true := by
  induction declared generalizing constraints with
  | nil =>
      cases hread
      simp
  | cons entry rest ih =>
      obtain ⟨name, bound⟩ := entry
      rw [readConstraints] at hread
      cases hfirst : Constraint.read name bound type with
      | error fault =>
          rw [hfirst] at hread
          cases hread
      | ok constraint =>
          rw [hfirst] at hread
          obtain ⟨others, hothers, hconstraints⟩ := bind_eq_ok.mp hread
          cases hconstraints
          rw [List.forall_mem_cons, List.forall_mem_cons, ih hothers, hfirst]
          simp

/-! ## Leaves -/

namespace Leaf

variable {leaf : Leaf} {name : String} {given value : Value} {context : Table Value} {data : Value}

theorem conform_accepted : leaf.conform name given = .accepted value ↔
    leaf.type.coerce? given = some value ∧
      ∀ constraint ∈ leaf.constraints, constraint.holds value = true := by
  have hviolations (coerced : Value) : leaf.violations coerced = [] ↔
      ∀ constraint ∈ leaf.constraints, constraint.holds coerced = true := by
    simp [violations]
  unfold conform
  cases leaf.type.coerce? given with
  | none => simp
  | some coerced =>
      dsimp only
      split
      next hnone =>
        rw [Judgement.accepted.injEq, Option.some.injEq]
        constructor
        · rintro rfl
          exact ⟨rfl, (hviolations _).mp hnone⟩
        · exact And.left
      next hsome =>
        constructor
        · intro hrejected
          cases hrejected
        · rintro ⟨hcoerced, hholds⟩
          cases hcoerced
          exact absurd ((hviolations _).mpr hholds) hsome

/-- A value is accepted when it passes the validator before coercion, the type and the constraints,
and the validator after coercion. -/
theorem judge_accepted : leaf.judge name given context data = .ok (.accepted value) ↔
    ∃ replaced coerced, leaf.consult true given context data = .ok (.accepted replaced) ∧
      leaf.conform name replaced = .accepted coerced ∧
      leaf.consult false coerced context data = .ok (.accepted value) := by
  rw [judge, bind_eq_ok]
  constructor
  · rintro ⟨early, hearly, hlate⟩
    cases early with
    | rejected errors => cases hlate
    | accepted replaced =>
        dsimp only at hlate
        cases hconform : leaf.conform name replaced with
        | rejected errors =>
            rw [hconform] at hlate
            cases hlate
        | accepted coerced =>
            rw [hconform] at hlate
            exact ⟨replaced, coerced, hearly, hconform, hlate⟩
  · rintro ⟨replaced, coerced, hearly, hconform, hlate⟩
    exact ⟨_, hearly, by simp only [hconform, hlate]⟩

/-- A leaf whose validator leaves the value alone when it follows coercion. -/
def KeepsCoerced (leaf : Leaf) : Prop :=
  ∀ validator, leaf.validator = some validator →
    validator.mode.precedesCoercion = true ∨ ¬ validator.program.Binds "value"

theorem consult_keeps (hkeeps : leaf.KeepsCoerced)
    (hconsult : leaf.consult false given context data = .ok (.accepted value)) : value = given := by
  unfold consult at hconsult
  cases hvalidator : leaf.validator with
  | none =>
      rw [hvalidator] at hconsult
      cases hconsult
      rfl
  | some validator =>
      rw [hvalidator] at hconsult
      dsimp only at hconsult
      split at hconsult
      next hlate =>
        -- It runs at this point, so it does not precede coercion and does not bind the value.
        have hvalue : ¬ validator.program.Binds "value" := by
          obtain hearly | hvalue := hkeeps validator hvalidator
          · rw [hlate] at hearly
            cases hearly
          · exact hvalue
        unfold Validator.judge at hconsult
        split at hconsult
        next hcall =>
          cases hconsult
          exact Validator.callField_keeps hvalue hcall
        next =>
          obtain ⟨message, _, hrejected⟩ := bind_eq_ok.mp hconsult
          cases hrejected
      next =>
        cases hconsult
        rfl

/-- A leaf whose validator follows coercion takes a value as it comes. -/
theorem consult_before (hlate : ∀ validator, leaf.validator = some validator →
      validator.mode = .after) (value : Value) (context : Table Value) (data : Value) :
    leaf.consult true value context data = .ok (.accepted value) := by
  unfold consult
  cases hvalidator : leaf.validator with
  | none => rfl
  | some validator =>
      dsimp only
      rw [hlate validator hvalidator]
      rfl

end Leaf

/-! ## Declared leaves -/

namespace Property

/-- A property that declares a type for its items. -/
def DeclaresItems (property : Property) (item : ScalarType) : Prop :=
  ∃ typeName type, property.typeName = some typeName ∧
    LeafType.declared typeName = .ok (type, some item)

variable {ev : Evaluator} {name : String} {property : Property} {itemType : Option ScalarType}
  {validator : Option Validator}

/-- A stated validator runs in its mode, also where the check of items comes after it. -/
theorem leafValidator_mode {spec : ValidatorSpec} (hspec : property.validator = some spec)
    (hcompile : leafValidator ev name property itemType = .ok validator) :
    ∀ v, validator = some v → v.mode = spec.mode .after := by
  rintro v rfl
  rw [leafValidator_eq, leafRequest?, leafSources, hspec] at hcompile
  obtain ⟨_, hcompiled, hsome⟩ := map_eq_ok.mp hcompile
  cases hsome
  obtain ⟨program, _, rfl⟩ := ValidatorRequest.compile_eq_ok.mp hcompiled
  rfl

/-- Where no validator is stated, the validator of a leaf is the check of its items after what
refuses empty values. -/
theorem leafValidator_unstated (hspec : property.validator = none)
    (hcompile : leafValidator ev name property itemType = .ok validator) :
    ∀ v, validator = some v → ∃ item body opening, itemType = some item ∧
      ev.compile (itemCheck name item) = .ok body ∧ v.program = opening ++ body ∧
      v.mode = .after ∧ (∀ other, ¬ Program.Binds opening other) ∧
      ¬ Program.Reads opening "info" := by
  rintro v rfl
  rw [leafValidator_eq, leafRequest?, leafSources, hspec] at hcompile
  cases itemType with
  | none => cases hcompile
  | some item =>
      obtain ⟨_, hcompiled, hsome⟩ := map_eq_ok.mp hcompile
      cases hsome
      obtain ⟨_, hprogram, rfl⟩ := ValidatorRequest.compile_eq_ok.mp hcompiled
      obtain ⟨body, opening, hbody, hopening, rfl⟩ := ValidatorRequest.program_eq_ok.mp hprogram
      exact ⟨item, body, opening, rfl, hbody, rfl, rfl,
        ValidatorRequest.opening_binds hopening, ValidatorRequest.opening_ignoresRecord hopening⟩

/-- The fields bear the names of the properties in their order. -/
theorem keys_of_compileAll {context : Table Value} {owner : String} :
    ∀ {properties : List (String × Property)} {fields : List (String × Field)},
      compileAll ev context owner properties = .ok fields →
        Table.keys fields = Table.keys properties
  | [], _, hcompile => by
      rw [compileAll] at hcompile
      cases hcompile
      rfl
  | (name, property) :: rest, _, hcompile => by
      obtain ⟨field, others, _, hothers, rfl⟩ := compileAll_cons_eq_ok.mp hcompile
      exact congrArg (List.cons name) (keys_of_compileAll hothers)

end Property

/-! ## Declarations at every depth -/

mutual

/-- The tables of properties inside of a property. -/
def Property.tables : Property → List (Table Property)
  | ⟨_, _, none, _, _, _, _⟩ => []
  | ⟨_, _, some nested, _, _, _, _⟩ => nested :: Property.tablesOfAll nested
termination_by structural property => property

/-- The tables of properties inside of the properties of a table. -/
def Property.tablesOfAll : List (String × Property) → List (Table Property)
  | [] => []
  | (_, property) :: rest => property.tables ++ Property.tablesOfAll rest
termination_by structural properties => properties

end

/-- The tables of properties of a document, its own and those of its groups at every depth. -/
def Document.tables (document : Document) : List (Table Property) :=
  document.properties :: Property.tablesOfAll document.properties

end SchemaGuard
