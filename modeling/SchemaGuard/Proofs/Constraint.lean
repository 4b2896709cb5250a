import SchemaGuard.Constraint
import SchemaGuard.Proofs.Outcome

/-! # Declared constraints

A declared constraint is a name and a bound. Its name decides the types that it applies to and
the bounds that it takes; it is read just when both fit, and then it is known from its name and
its bound again.
-/

namespace SchemaGuard

open Outcome

namespace Constraint

/-! ## Names and bounds -/

/-- The bound with which a constraint is declared. -/
def bound : Constraint → Value
  | atLeast bound | above bound | atMost bound | below bound | multipleOf bound => bound
  | minLength size | maxLength size | minItems size | maxItems size => .ofNat size
  | pattern p => .str p.source

theorem bound_of_readBound {name : String} {type : LeafType} {bound found : Value}
    (hread : readBound name type bound = .ok found) : found = bound := by
  unfold readBound at hread
  split at hread
  next => cases hread
  next =>
    split at hread
    next =>
      cases hread
      rfl
    next => cases hread

theorem bound_of_readSize {name : String} {type : LeafType} {applies : Bool} {bound : Value}
    {size : Nat} (hread : readSize name type applies bound = .ok size) : .ofNat size = bound := by
  unfold readSize at hread
  split at hread
  next => cases hread
  next =>
    split at hread
    next =>
      split at hread
      next =>
        cases hread
        rfl
      next => cases hread
    next => cases hread

theorem bound_of_readFactor {name : String} {type : LeafType} {bound : Value}
    {constraint : Constraint} (hread : readFactor name type bound = .ok constraint) :
    constraint = multipleOf bound := by
  obtain ⟨factor, hfactor, hnonzero⟩ := bind_eq_ok.mp hread
  obtain rfl := bound_of_readBound hfactor
  split at hnonzero
  next => cases hnonzero
  next =>
    cases hnonzero
    rfl

theorem bound_of_readPattern {name : String} {type : LeafType} {bound : Value}
    {constraint : Constraint} (hread : readPattern name type bound = .ok constraint) :
    ∃ p, constraint = pattern p ∧ bound = .str p.source := by
  unfold readPattern at hread
  split at hread
  next => cases hread
  next =>
    split at hread
    next source =>
      split at hread
      next compiled hcompiled =>
        cases hread
        refine ⟨compiled, rfl, ?_⟩
        unfold Pattern.compile at hcompiled
        split at hcompiled
        next => cases hcompiled
        next =>
          split at hcompiled
          next => cases hcompiled
          next =>
            cases hcompiled
            rfl
      next => cases hread
    next => cases hread

/-- A constraint is read from its name and its bound. -/
theorem declaration_of_read {name : String} {bound : Value} {type : LeafType}
    {constraint : Constraint} (hread : Constraint.read name bound type = .ok constraint) :
    (constraint.name, constraint.bound) = (name, bound) := by
  unfold Constraint.read at hread
  split at hread
  case h_5 => rw [bound_of_readFactor hread]; rfl
  case h_10 =>
    obtain ⟨p, rfl, rfl⟩ := bound_of_readPattern hread
    rfl
  case h_11 => cases hread
  all_goals obtain ⟨found, hfound, rfl⟩ := map_eq_ok.mp hread
  case h_1 | h_2 | h_3 | h_4 =>
    obtain rfl := bound_of_readBound hfound
    rfl
  all_goals exact congrArg (Prod.mk _) (bound_of_readSize hfound)

/-! ## Rules of constraints -/

/-- What a constraint asks for, which decides the types that it applies to and the bounds that it
takes. -/
inductive Rule where
  | order
  | factor
  | length
  | items
  | pattern
deriving DecidableEq, Repr

/-- The rule of the constraint with a name. -/
def rule? : String → Option Rule
  | "ge" | "gt" | "le" | "lt" => some .order
  | "multiple_of" => some .factor
  | "min_length" | "max_length" => some .length
  | "min_items" | "max_items" => some .items
  | "pattern" => some .pattern
  | _ => none

namespace Rule

/-- The types that a constraint applies to. -/
def types : Rule → List LeafType
  | order | factor => [.scalar .integer, .scalar .number]
  | length => [.scalar .text, .list, .set]
  | items => [.list, .set]
  | pattern => [.scalar .text]

/-- The bounds that a constraint takes: a number, which must not be zero for a factor, a size, or
the text of a pattern. -/
def Takes (bound : Value) : Rule → Prop
  | order => ∃ number, bound.float? = some number
  | factor => ∃ number, bound.float? = some number ∧ number.isZero = false
  | length | items => ∃ size < sizeLimit, bound = .ofNat size
  | pattern => ∃ source compiled, bound = .str source ∧ Pattern.compile source = .ok compiled

/-- What a bound that a constraint does not take is refused for. -/
def Rejects (name : String) (bound : Value) : Rule → ConstraintFault → Prop
  | order, fault => bound.float? = none ∧ fault = .notANumber name bound
  | factor, fault => bound.float? = none ∧ fault = .notANumber name bound ∨
      ∃ number, bound.float? = some number ∧ number.isZero = true ∧ fault = .zeroFactor
  | length, fault | items, fault =>
      (∀ size < sizeLimit, bound ≠ .ofNat size) ∧ fault = .notASize name bound
  | pattern, fault => (∀ source, bound ≠ .str source) ∧ fault = .patternNotText ∨
      ∃ source refusal, bound = .str source ∧ Pattern.compile source = .error refusal ∧
        fault = .badPattern source refusal

/-- A constraint that applies to a type and takes a bound. -/
def Admits (rule : Rule) (bound : Value) (type : LeafType) : Prop :=
  type ∈ rule.types ∧ rule.Takes bound

/-- What a constraint on a type is refused for: the type comes before the bound. -/
def Refuses (rule : Rule) (name : String) (bound : Value) (type : LeafType)
    (fault : ConstraintFault) : Prop :=
  type ∉ rule.types ∧ fault = .inapplicable name type ∨
    type ∈ rule.types ∧ rule.Rejects name bound fault

end Rule

/-- A constraint that is known, applies to a type and has a bound that it takes. -/
def Valid (name : String) (bound : Value) (type : LeafType) : Prop :=
  ∃ rule, rule? name = some rule ∧ rule.Admits bound type

/-- What a declared constraint is refused for: its name comes before the type and the bound. -/
def Refuses (name : String) (bound : Value) (type : LeafType) (fault : ConstraintFault) : Prop :=
  rule? name = none ∧ fault = .unknown name ∨
    ∃ rule, rule? name = some rule ∧ rule.Refuses name bound type fault

/-! ## Constraints are read by their rules -/

section Reading

variable {name : String} {bound : Value} {type : LeafType} {α : Type}

theorem bearsBounds_iff : bearsBounds type = true ↔ type ∈ Rule.order.types := by
  cases type with
  | scalar scalarType => cases scalarType <;> decide
  | list => decide
  | set => decide

theorem bearsLength_iff : bearsLength type = true ↔ type ∈ Rule.length.types := by
  cases type with
  | scalar scalarType => cases scalarType <;> decide
  | list => decide
  | set => decide

theorem isCollection_iff : type.isCollection = true ↔ type ∈ Rule.items.types := by
  cases type with
  | scalar scalarType => cases scalarType <;> decide
  | list => decide
  | set => decide

/-- A bound is looked at only where the constraint applies. -/
theorem Rule.settles {rule : Rule} {outcome read : Except ConstraintFault α}
    (happlies : type ∈ rule.types → outcome = read)
    (hother : type ∉ rule.types → outcome = .error (.inapplicable name type))
    (hread : Settles read (rule.Takes bound) (rule.Rejects name bound)) :
    Settles outcome (rule.Admits bound type) (rule.Refuses name bound type) := by
  unfold Rule.Admits Rule.Refuses
  by_cases htype : type ∈ rule.types
  · rw [happlies htype]
    exact hread.congr (by simp [htype]) (by simp [htype])
  · rw [hother htype]
    constructor
    · simp [htype]
    · simp [htype, eq_comm]

/-- The bound of a constraint on numbers, where it applies. -/
def numberBound (name : String) (bound : Value) : Except ConstraintFault Value :=
  match bound.float? with
  | some _ => .ok bound
  | none => .error (.notANumber name bound)

theorem readBound_eq (name : String) (type : LeafType) (bound : Value) :
    readBound name type bound =
      if !bearsBounds type then .error (.inapplicable name type) else numberBound name bound :=
  rfl

theorem readBound_settles : Settles (readBound name type bound) (Rule.order.Admits bound type)
    (Rule.order.Refuses name bound type) := by
  have hread : Settles (numberBound name bound) (Rule.order.Takes bound)
      (Rule.order.Rejects name bound) := by
    unfold numberBound Rule.Takes Rule.Rejects
    cases bound.float? with
    | some number => exact .result _ ⟨number, rfl⟩ (by simp)
    | none => exact .failure (by simp) ⟨rfl, rfl⟩ (by simp)
  apply Rule.settles _ _ hread
  · intro htype
    simp [readBound_eq, bearsBounds_iff.mpr htype]
  · intro htype
    simp [readBound_eq, mt bearsBounds_iff.mp htype]

theorem readFactor_settles : Settles (readFactor name type bound) (Rule.factor.Admits bound type)
    (Rule.factor.Refuses name bound type) := by
  have hread : Settles (numberBound name bound >>= fun factor =>
      if factor.float?.any Binary64.isZero then .error .zeroFactor else .ok (multipleOf factor))
      (Rule.factor.Takes bound) (Rule.factor.Rejects name bound) := by
    unfold numberBound Rule.Takes Rule.Rejects
    cases hbound : bound.float? with
    | some number =>
        simp only [ok_bind, hbound, Option.any_some]
        cases hzero : number.isZero with
        | false => exact .result _ ⟨number, rfl, hzero⟩ (by simp [hzero])
        | true => exact .failure (by simp [hzero]) (.inr ⟨number, rfl, hzero, rfl⟩) (by simp)
    | none => exact .failure (by simp) (.inl ⟨rfl, rfl⟩) (by simp)
  apply Rule.settles _ _ hread
  · intro htype
    simp [readFactor, readBound_eq, bearsBounds_iff.mpr htype]
  · intro htype
    simp [readFactor, readBound_eq, mt bearsBounds_iff.mp htype]

/-- The bound of a constraint on sizes, where it applies. -/
def sizeBound (name : String) (bound : Value) : Except ConstraintFault Nat :=
  match bound with
  | .int (.ofNat size) =>
      if size < sizeLimit then .ok size else .error (.notASize name bound)
  | _ => .error (.notASize name bound)

theorem readSize_eq (name : String) (type : LeafType) (applies : Bool) (bound : Value) :
    readSize name type applies bound =
      if !applies then .error (.inapplicable name type) else sizeBound name bound :=
  rfl

theorem sizeBound_settles : Settles (sizeBound name bound)
    (∃ size < sizeLimit, bound = .ofNat size)
    (fun fault => (∀ size < sizeLimit, bound ≠ .ofNat size) ∧ fault = .notASize name bound) := by
  unfold sizeBound
  split
  next size =>
    split
    next hsize => exact .result _ ⟨size, hsize, rfl⟩ fun _ hnone => hnone.1 size hsize rfl
    next hlarge =>
      have hother : ∀ other < sizeLimit, Value.int (.ofNat size) ≠ .ofNat other := by
        rintro other hother hequal
        cases hequal
        exact hlarge hother
      exact .failure (by simpa using hother) ⟨hother, rfl⟩ fun _ hfault => hfault.2
  next hshape =>
    have hother : ∀ size < sizeLimit, bound ≠ .ofNat size :=
      fun size _ hequal => hshape size hequal
    exact .failure (by simpa using hother) ⟨hother, rfl⟩ fun _ hfault => hfault.2

/-- The sizes of texts and lists and the sizes of lists alone are read alike. -/
theorem readSize_settles {rule : Rule} (hrule : rule = .length ∨ rule = .items) {applies : Bool}
    (happlies : applies = true ↔ type ∈ rule.types) :
    Settles (readSize name type applies bound) (rule.Admits bound type)
      (rule.Refuses name bound type) := by
  have hread : Settles (sizeBound name bound) (rule.Takes bound) (rule.Rejects name bound) := by
    rcases hrule with rfl | rfl
    · exact sizeBound_settles
    · exact sizeBound_settles
  apply Rule.settles _ _ hread
  · intro htype
    simp [readSize_eq, happlies.mpr htype]
  · intro htype
    simp [readSize_eq, mt happlies.mp htype]

/-- The bound of a pattern, where it applies. -/
def patternBound (bound : Value) : Except ConstraintFault Constraint :=
  match bound with
  | .str source =>
      match Pattern.compile source with
      | .ok compiled => .ok (pattern compiled)
      | .error refusal => .error (.badPattern source refusal)
  | _ => .error .patternNotText

theorem readPattern_eq (name : String) (type : LeafType) (bound : Value) :
    readPattern name type bound =
      if type ≠ .scalar .text then .error (.inapplicable name type) else patternBound bound :=
  rfl

theorem readPattern_settles : Settles (readPattern name type bound)
    (Rule.pattern.Admits bound type) (Rule.pattern.Refuses name bound type) := by
  have hread : Settles (patternBound bound) (Rule.pattern.Takes bound)
      (Rule.pattern.Rejects name bound) := by
    unfold patternBound Rule.Takes Rule.Rejects
    split
    next source =>
      split
      next compiled hcompiled =>
        exact .result _ ⟨source, compiled, rfl, hcompiled⟩ (by simp [hcompiled])
      next refusal hrefusal =>
        exact .failure (by simp [hrefusal]) (.inr ⟨source, refusal, rfl, hrefusal, rfl⟩)
          (by simp [hrefusal])
    next hshape =>
      have hother : ∀ source, bound ≠ .str source := fun source hequal => hshape source hequal
      exact .failure (by simp [hother]) (.inl ⟨hother, rfl⟩) (by simp [hother])
  apply Rule.settles _ _ hread
  · intro htype
    simp only [Rule.types, List.mem_singleton] at htype
    simp [readPattern_eq, htype]
  · intro htype
    simp only [Rule.types, List.mem_singleton] at htype
    simp [readPattern_eq, htype]

/-- A known constraint is valid or refused as its rule has it. -/
theorem settles_of_rule {rule : Rule} (hrule : rule? name = some rule)
    {outcome : Except ConstraintFault α}
    (houtcome : Settles outcome (rule.Admits bound type) (rule.Refuses name bound type)) :
    Settles outcome (Valid name bound type) (Refuses name bound type) := by
  unfold Valid Refuses
  exact houtcome.congr (by simp [hrule]) (by simp [hrule])

/-- A declared constraint is read just when it is valid, and otherwise it is refused for the first of
its name, the type and the bound that does not fit. -/
theorem read_settles (name : String) (bound : Value) (type : LeafType) :
    Settles (Constraint.read name bound type) (Valid name bound type)
      (Refuses name bound type) := by
  unfold Constraint.read
  split
  next => exact settles_of_rule rfl (readBound_settles.map _)
  next => exact settles_of_rule rfl (readBound_settles.map _)
  next => exact settles_of_rule rfl (readBound_settles.map _)
  next => exact settles_of_rule rfl (readBound_settles.map _)
  next => exact settles_of_rule rfl readFactor_settles
  next => exact settles_of_rule rfl ((readSize_settles (.inl rfl) bearsLength_iff).map _)
  next => exact settles_of_rule rfl ((readSize_settles (.inl rfl) bearsLength_iff).map _)
  next => exact settles_of_rule rfl ((readSize_settles (.inr rfl) isCollection_iff).map _)
  next => exact settles_of_rule rfl ((readSize_settles (.inr rfl) isCollection_iff).map _)
  next => exact settles_of_rule rfl readPattern_settles
  next =>
    have hnone : rule? name = none := by
      unfold rule?
      split <;> first | contradiction | rfl
    unfold Valid Refuses
    exact .failure (by simp [hnone]) (.inl ⟨hnone, rfl⟩) (by simp [hnone])

theorem valid_of_read {constraint : Constraint}
    (hread : Constraint.read name bound type = .ok constraint) : Valid name bound type :=
  (read_settles name bound type).ok.mp ⟨constraint, hread⟩

end Reading

end Constraint

end SchemaGuard
