import SchemaGuard.Proofs.Equality
import SchemaGuard.Proofs.Model.Collections
import SchemaGuard.Proofs.Model.Declarations

/-! # Sets of items of a declared type

The items of a set are checked after coercion has dropped the repetitions among them. An empty item
is reported all the same, and so is an item of another type, unless it is a number: an integer is
dropped next to the floating point number of the same value, and is then never checked, nor is
the floating point number next to the integer.
-/

namespace SchemaGuard

open Outcome

/-- A nonempty value of a type, which the check of items asks for. -/
def Value.IsItem (item : ScalarType) (value : Value) : Prop :=
  value.truthy = true ∧ value.hasKind? item.name = some true

/-- An item that stands for an unsuitable one is unsuitable itself, save for a number of the type
that stands for a number of another. -/
theorem Value.not_isItem_of_equal {item : ScalarType} {seen value : Value}
    (hequal : equal seen value = true) (hvalue : ¬ value.IsItem item)
    (hnumber : item.isNumeric = true → value.truthy = true →
      seen.hasKind? item.name ≠ some true) : ¬ seen.IsItem item := by
  rintro ⟨htruthy, hkind⟩
  have hvalueTruthy : value.truthy = true := (truthy_of_equal hequal).symm.trans htruthy
  cases hnumeric : item.isNumeric with
  | true => exact hnumber hnumeric hvalueTruthy hkind
  | false => exact hvalue ⟨hvalueTruthy, (hasKind?_of_equal hnumeric hequal).symm.trans hkind⟩

/-! ## Judgements after coercion -/

namespace Leaf

variable {leaf : Leaf} {validator : Validator} {name : String} {value coerced : Value}
  {context : Table Value} {data : Value} {judgement : Judgement}

/-- A value without complaints has been before the validator that follows coercion. -/
theorem callField_of_judge_after (hvalidator : leaf.validator = some validator)
    (hmode : validator.mode = .after) (hcoerced : leaf.type.coerce? value = some coerced)
    (hjudge : leaf.judge name value context data = .ok judgement)
    (hclean : judgement.errors = []) :
    ∃ replaced, validator.callField coerced context data = .ok replaced := by
  obtain ⟨result, rfl⟩ := (leaf.judge_reasoned name value context data _ hjudge).accepted hclean
  obtain ⟨given, conforming, hearly, hconform, hlate⟩ := judge_accepted.mp hjudge
  have hafter : ∀ v, leaf.validator = some v → v.mode = .after := by
    intro v hv
    cases hvalidator.symm.trans hv
    exact hmode
  rw [consult_before hafter] at hearly
  cases hearly
  obtain ⟨hconforming, -⟩ := conform_accepted.mp hconform
  cases hcoerced.symm.trans hconforming
  have hplace : validator.mode.precedesCoercion = false := by rw [hmode]; rfl
  simp only [consult, hvalidator, hplace, if_true] at hlate
  exact (Validator.judge_errors hlate).mp rfl

/-- Without constraints the judgement is that of the validator on the coerced value. -/
theorem judge_after (hvalidator : leaf.validator = some validator)
    (hmode : validator.mode = .after) (hcoerced : leaf.type.coerce? value = some coerced)
    (hconstraints : leaf.constraints = []) :
    leaf.judge name value context data = validator.judge coerced context data := by
  have hplace : validator.mode.precedesCoercion = false := by rw [hmode]; rfl
  unfold judge consult conform violations
  simp only [hvalidator, hplace, hcoerced, hconstraints, List.filter_nil, List.map_nil,
    Bool.false_eq_true, if_false, if_true, ok_bind]

end Leaf

/-! ## Compiled sets -/

namespace Property

/-- A property that declares a set with a type for its items. -/
def Sets (property : Property) (item : ScalarType) : Prop :=
  property.properties = none ∧ ∃ typeName, property.typeName = some typeName ∧
    LeafType.declared typeName = .ok (.set, some item)

/-- The leaf that a set with a type for its items is compiled to. -/
def setLeaf (property : Property) (item : ScalarType) (constraints : List Constraint)
    (validator : Validator) : Leaf :=
  ⟨property.description, .set, some item, property.default, constraints, some validator⟩

variable {ev : Evaluator} {name : String} {property : Property} {item : ScalarType}

theorem compile_set_eq_ok (hsets : property.Sets item) {context : Table Value} {owner : String}
    {field : Field} : property.compile ev context owner name = .ok field ↔
      ∃ constraints validator,
        readConstraints (owner ++ "." ++ name) .set property.constraints = .ok constraints ∧
        (listRequest name property item).compile ev = .ok validator ∧
        field = .leaf (property.setLeaf item constraints validator) := by
  obtain ⟨hproperties, typeName, htype, hdeclared⟩ := hsets
  exact compile_items_eq_ok hproperties htype hdeclared

/-- The validator of a collection whose document states none ends with the check of the items, and
what stands before it binds nothing. -/
theorem compile_listRequest_unstated {body : List Char} {validator : Validator}
    (hspec : property.validator = none) (hname : Lexer.Quotes name.toList body)
    (hcompile : (listRequest name property item).compile ev = .ok validator) :
    4 ≤ ev.limits.maxCallDepth ∧ ∃ program,
      program = property.refusal ++ ItemCheck.program item (ItemCheck.wrongItem body item) ∧
      validator = (listRequest name property item).validator ev program := by
  obtain ⟨program, hprogram, rfl⟩ := ValidatorRequest.compile_eq_ok.mp hcompile
  obtain ⟨whole, opening, hwhole, hopening, rfl⟩ := ValidatorRequest.program_eq_ok.mp hprogram
  have hsource : (listRequest name property item).source = itemCheck name item := by
    unfold listRequest leafSources
    rw [hspec]
    rfl
  rw [hsource] at hwhole
  obtain ⟨-, hparse, -⟩ := Evaluator.compile_eq_ok.mp hwhole
  obtain ⟨-, hdepth, rfl⟩ := (ItemCheck.parse_itemCheck_eq_ok hname item).mp hparse
  rw [opening_listRequest] at hopening
  cases hopening
  exact ⟨hdepth, _, rfl, rfl⟩

theorem listRequest_mode (hspec : property.validator = none) (program : Program) :
    ((listRequest name property item).validator ev program).mode = .after := by
  show (property.validator.map (·.mode .after)).getD .after = .after
  rw [hspec]
  rfl

theorem refusal_binds (property : Property) (name : String) : ¬ property.refusal.Binds name :=
  ValidatorRequest.opening_binds (opening_listRequest name property .any) name

end Property

/-! ## Judgements on sets -/

section

variable {ev : Evaluator} {name : String} {property : Property} {item : ScalarType}
  {program : Program} {message : String} {constraints : List Constraint} {items : List Value}
  {context : Table Value} {data : Value} {judgement : Judgement}

theorem ItemCheck.passes_isItem (hkind : name ≠ item.name) {value : Value} :
    Passes (sought name item items) value ↔ value.IsItem item := by
  rw [passes_sought, if_neg hkind, Value.IsItem]

/-- A set is without complaints only when everything that is kept of it is a nonempty value of the
type. -/
theorem Leaf.judge_set_items (hfunctions : ev.functions = Registry.restricted)
    (hdepth : 4 ≤ ev.limits.maxCallDepth) (hspec : property.validator = none)
    (hkind : name ≠ item.name)
    (hprogram : program = property.refusal ++ ItemCheck.program item message)
    (hjudge : (property.setLeaf item constraints
      ((Property.listRequest name property item).validator ev program)).judge name (.list items)
        context data = .ok judgement)
    (hclean : judgement.errors = []) : ∀ value ∈ Value.dedup items, value.IsItem item := by
  have hcall := Leaf.callField_of_judge_after rfl (Property.listRequest_mode hspec program) rfl
    hjudge hclean
  intro value hvalue
  have hpasses := ItemCheck.passes_of_callField rfl hfunctions hdepth hprogram
    (property.refusal_binds _) (property.refusal_binds _) hcall value hvalue
  exact (ItemCheck.passes_isItem hkind).mp hpasses

/-- A set for which its document states nothing else is without complaints just then, if it has
items and the steps suffice for those that are kept. -/
theorem Leaf.judge_plain_set (hfunctions : ev.functions = Registry.restricted)
    (hdepth : 4 ≤ ev.limits.maxCallDepth) (hplain : property.Plain) (hkind : name ≠ item.name)
    (hprogram : program = property.refusal ++ ItemCheck.program item message)
    (hsteps : 3 * (Value.dedup items).length + 2 ≤ ev.limits.maxIterations)
    (hjudge : (property.setLeaf item []
      ((Property.listRequest name property item).validator ev program)).judge name (.list items)
        context data = .ok judgement) :
    judgement.errors = [] ↔ items ≠ [] ∧ ∀ value ∈ Value.dedup items, value.IsItem item := by
  have hrefusal : property.refusal = ValidatorRequest.refusal := if_pos hplain.refusesEmpty
  rw [hrefusal] at hprogram
  rw [Leaf.judge_after rfl (Property.listRequest_mode hplain.validator program) rfl rfl] at hjudge
  rw [Validator.judge_errors hjudge,
    ItemCheck.callField_ok_iff rfl hfunctions hdepth hprogram hsteps, Ne, Value.dedup_eq_nil]
  have hitems : ∀ value, ItemCheck.Passes (ItemCheck.sought name item (Value.dedup items)) value ↔
      value.IsItem item := fun _ => ItemCheck.passes_isItem hkind
  exact and_congr_right' (forall₂_congr fun value _ => hitems value)

end

/-! ## Sets in documents -/

/-- The items of a set are checked when repetitions are gone. An empty item is reported whatever
the others are, and so is an item of another type, unless it is a number that an equal number of
the type stands for; and where nothing else is stated for the set, nothing else is reported. -/
theorem Document.set_items_checked {limits : Limits} {guard : Guard} {document : Document}
    {model : Model} (hcompile : document.compile (.withBuiltins limits guard) = .ok model)
    (hwhole : document.validator = none) {name : String} {property : Property} {item : ScalarType}
    (hproperty : (name, property) ∈ document.properties) (hsets : property.Sets item)
    (hspec : property.validator = none) (hname : Lexer.isName name.toList = true)
    (hkind : name ≠ item.name) {entries : Table Value} {items : List Value}
    (hitems : Table.get? entries name = some (.list items)) :
    ∃ pass, model.run (.dict entries) = .ok pass ∧
      ((∃ value ∈ items, ¬ value.IsItem item ∧ (item.isNumeric = true → value.truthy = true →
          ∀ other ∈ items, other.equal value = true → other.hasKind? item.name ≠ some true)) →
        ∃ error ∈ pass.report.errors, error.field = name) ∧
      (property.Plain → (Table.keys document.properties).Nodup →
        (∀ other ∈ Table.keys document.properties, other ≠ name →
          ∀ inner, name ≠ other ++ "." ++ inner) →
        3 * (Value.dedup items).length + 2 ≤ limits.maxIterations →
          ((∀ error ∈ pass.report.errors, error.field ≠ name) ↔
            items ≠ [] ∧ ∀ value ∈ Value.dedup items, value.IsItem item)) := by
  obtain ⟨pass, hrun⟩ : ∃ pass, model.run (.dict entries) = .ok pass :=
    Model.pass_ok model model.name _ (Document.compile_screened hcompile)
  obtain ⟨_, fields, _, hfields, hvalidator, hmodel⟩ := Document.compile_eq_ok.mp hcompile
  rw [hwhole] at hvalidator
  cases hvalidator
  obtain ⟨field, hfield, hmem⟩ := Property.compileAll_mem hfields hproperty
  have hnamed := Property.compile_named hfield
  obtain ⟨constraints, validator, hread, hrequest, rfl⟩ :=
    (Property.compile_set_eq_ok hsets).mp hfield
  have hscreened : ∀ v ∈ (property.setLeaf item constraints validator).validator.toList,
      v.Screened := by
    simpa [Property.setLeaf] using Validator.screened_of_compile hrequest
  obtain ⟨judgement, hjudge⟩ :=
    Leaf.judge_ok hscreened name (.list items) document.context (.dict entries)
  have hjudged := (Field.judgeIn_leaf hitems).trans hjudge
  obtain ⟨hdepth, program, hprogram, rfl⟩ :=
    Property.compile_listRequest_unstated hspec (Lexer.quotes_of_isName hname) hrequest
  refine ⟨pass, hrun, ?_, ?_⟩
  · rintro ⟨value, hvalue, hwrong, hnumber⟩
    -- What is kept in place of the item is unsuitable as well.
    have hdirty : judgement.errors ≠ [] := by
      intro hclean
      have hkept := Leaf.judge_set_items rfl hdepth hspec hkind hprogram hjudge hclean
      obtain ⟨seen, hseen, rfl | hequal⟩ := Value.exists_mem_dedup hvalue
      · exact hwrong (hkept _ hseen)
      · have hother := fun hnumeric htruthy =>
          hnumber hnumeric htruthy seen (Value.mem_of_mem_dedup hseen) hequal
        exact Value.not_isItem_of_equal hequal hwrong hother (hkept seen hseen)
    obtain ⟨error, herror⟩ := List.exists_mem_of_ne_nil _ hdirty
    subst hmodel
    exact ⟨error, (Model.mem_run rfl hrun).mpr ⟨name, _, hmem, judgement, hjudged, herror⟩,
      Leaf.judge_field hnamed hjudge error herror⟩
  · intro hplain hkeys hapart hsteps
    rw [hplain.constraints] at hread
    cases hread
    rw [Document.free_iff hcompile hwhole hkeys hproperty hapart hfield hrun hjudged,
      Leaf.free_iff hnamed hjudge,
      Leaf.judge_plain_set rfl hdepth hplain hkind hprogram hsteps hjudge]

/-- A document with one field, for a set of integers. -/
def codesDocument : Document where
  name := "Codes"
  version := "1"
  properties := [("codes", { typeName := some "set[int]" })]

theorem codesDocument_compile :
    ∃ model, codesDocument.compile (.withBuiltins {} .restricted) = .ok model := by
  let property : Property := { typeName := some "set[int]" }
  have hdeclared : LeafType.declared "set[int]" = .ok (.set, some .integer) := by rfl
  have hname : Lexer.isName "codes".toList = true := by decide
  obtain ⟨program, _, hrequest⟩ : ∃ program, _ ∧
      (Property.listRequest "codes" property .integer).compile (.withBuiltins {} .restricted) =
        .ok _ :=
    Property.compile_listRequest_plain ⟨rfl, rfl, rfl⟩ (Lexer.quotes_of_isName hname)
      (ItemCheck.itemCheck_screened .restricted hname _) (by decide +kernel) (by decide)
  have hfield : property.compile (.withBuiltins {} .restricted) [] "Codes" "codes" = .ok _ :=
    Property.compile_items_eq_ok rfl rfl hdeclared |>.mpr ⟨[], _, rfl, hrequest, rfl⟩
  obtain ⟨fields, hfields⟩ : ∃ fields, Property.compileAll (.withBuiltins {} .restricted) []
      "Codes" codesDocument.properties = .ok fields :=
    Property.compileAll_ok (by simpa [codesDocument] using ⟨_, hfield⟩)
  exact ⟨_, Document.compile_eq_ok.mpr ⟨by decide, fields, none, hfields, rfl, rfl⟩⟩

/-- A text among the codes is reported, but a floating point number after the same integer is
not. -/
theorem codesDocument_checked :
    ∃ model, codesDocument.compile (.withBuiltins {} .restricted) = .ok model ∧
      (∃ pass, model.run (.dict [("codes", .list [.int 1, .str "a"])]) = .ok pass ∧
        ∃ error ∈ pass.report.errors, error.field = "codes") ∧
      ∃ pass,
        model.run (.dict [("codes", .list [.int 1, .float (Binary64.ofInt 1)])]) = .ok pass ∧
          ∀ error ∈ pass.report.errors, error.field ≠ "codes" := by
  obtain ⟨model, hcompile⟩ := codesDocument_compile
  have hdeclared : LeafType.declared "set[int]" = .ok (.set, some .integer) := by rfl
  have hsets : Property.Sets { typeName := some "set[int]" } .integer := ⟨rfl, _, rfl, hdeclared⟩
  have hget (items : List Value) :
      Table.get? [("codes", Value.list items)] "codes" = some (Value.list items) := rfl
  have hchecked := fun items => Document.set_items_checked hcompile rfl List.mem_cons_self hsets rfl
    (by decide) (by decide) (hget items)
  refine ⟨model, hcompile, ?_, ?_⟩
  · obtain ⟨pass, hrun, hreported, -⟩ := hchecked [.int 1, .str "a"]
    refine ⟨pass, hrun, hreported ⟨.str "a", by simp, ?_, ?_⟩⟩
    · simp [Value.IsItem, Value.hasKind?, ScalarType.name]
    · simp [Value.equal, Value.hasKind?, ScalarType.name]
  · obtain ⟨pass, hrun, -, hfree⟩ := hchecked [.int 1, .float (Binary64.ofInt 1)]
    have hkept : Value.dedup [.int 1, .float (Binary64.ofInt 1)] = [.int 1] := by
      have hequal : Value.equal (.int 1) (.float (Binary64.ofInt 1)) = true :=
        beq_self_eq_true (Binary64.ofInt 1).units
      simp [Value.dedup, Value.dedupInto, hequal]
    refine ⟨pass, hrun, (hfree ⟨rfl, rfl, rfl⟩ ?_ ?_ ?_).mpr ?_⟩
    · decide
    · simp [codesDocument]
    · rw [hkept]
      decide
    · rw [hkept]
      simp [Value.IsItem, Value.truthy, Value.hasKind?, ScalarType.name]

end SchemaGuard
