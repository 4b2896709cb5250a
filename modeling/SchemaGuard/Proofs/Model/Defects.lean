import SchemaGuard.Proofs.Constraint
import SchemaGuard.Proofs.LeafType
import SchemaGuard.Proofs.Model.Declarations

/-! # The first defect of a document

What a document declares is checked element by element: its name, then its properties in depth
before breadth, and last its validator. A property is checked for its kind; a leaf goes on with
its type, its constraints in order and its validator, and a group with its properties and then
its validator. A document compiles just when no element has a defect, and the first one that has
decides the failure.
-/

namespace SchemaGuard

open Outcome

/-! ## Well-formed documents -/

/-- A source that an evaluator compiles. -/
def Evaluator.Compiles (ev : Evaluator) (source : String) : Prop :=
  ∃ program, ev.compile source = .ok program

/-- The source of a stated validator without the indentation that its lines share. -/
def ValidatorSpec.dedented (spec : ValidatorSpec) : String :=
  String.ofList (Text.dedent spec.text.toList)

namespace Property

/-- The source of the validator of a leaf with a type for its items, if it has one: what is stated,
the check of the items, or the first joined with the second. -/
inductive LeafSource (name : String) (property : Property) : Option ScalarType → String → Prop
  | stated {spec : ValidatorSpec} (hspec : property.validator = some spec) :
      LeafSource name property none spec.dedented
  | checked {item : ScalarType} (hspec : property.validator = none) :
      LeafSource name property (some item) (itemCheck name item)
  | joined {spec : ValidatorSpec} {item : ScalarType} (hspec : property.validator = some spec) :
      LeafSource name property (some item) (spec.dedented ++ "\n" ++ itemCheck name item)

/-- A property that states either a type or properties. A leaf states a known type, constraints that
are valid for it, and a validator that compiles; a group states a validator that compiles. -/
structure WellFormed (ev : Evaluator) (name : String) (property : Property) : Prop where
  kind : property.typeName.isSome = property.properties.isNone
  type : ∀ text, property.typeName = some text →
    ∃ type itemType, LeafType.Declares (Text.trimString text) type itemType
  constraints : ∀ text type itemType, property.typeName = some text →
    LeafType.Declares (Text.trimString text) type itemType →
      ∀ entry ∈ property.constraints, Constraint.Valid entry.1 entry.2 type
  leafValidator : ∀ text type itemType, property.typeName = some text →
    LeafType.Declares (Text.trimString text) type itemType →
      ∀ source, property.LeafSource name itemType source → ev.Compiles source
  groupValidator : ∀ nested, property.properties = some nested →
    ∀ spec, property.validator = some spec → ev.Compiles spec.text

end Property

/-- A document with a name that is not blank, whose properties are well-formed at every depth, and
whose validator compiles. -/
structure Document.WellFormed (ev : Evaluator) (document : Document) : Prop where
  name : ∃ c ∈ document.name.toList, Unicode.isBlank c = false
  properties : ∀ table ∈ document.tables, ∀ entry ∈ table, entry.2.WellFormed ev entry.1
  validator : ∀ spec, document.validator = some spec → ev.Compiles spec.text

/-! ## Elements -/

/-- What is checked at one place of a document. A constraint and the validator of a leaf stand with
the text of the type of the leaf. -/
inductive Element where
  | title (name : String)
  | kind (path : String) (property : Property)
  | type (text : String)
  | constraint (path text name : String) (bound : Value)
  | leafValidator (text name : String) (property : Property)
  | validator (name source : String)

namespace Element

/-- An element without a defect. -/
def Sound (ev : Evaluator) : Element → Prop
  | title name => ∃ c ∈ name.toList, Unicode.isBlank c = false
  | kind _ property => property.typeName.isSome = property.properties.isNone
  | type text => ∃ type itemType, LeafType.Declares (Text.trimString text) type itemType
  | constraint _ text name bound => ∀ type itemType,
      LeafType.Declares (Text.trimString text) type itemType → Constraint.Valid name bound type
  | leafValidator text name property => ∀ type itemType,
      LeafType.Declares (Text.trimString text) type itemType →
        ∀ source, property.LeafSource name itemType source → ev.Compiles source
  | validator _ source => ev.Compiles source

/-- An element with a defect, and the failure that it leads to. -/
inductive Defect (ev : Evaluator) : Element → Failure → Prop
  | title {name : String} (hblank : ∀ c ∈ name.toList, Unicode.isBlank c = true) :
      Defect ev (.title name) (.schema "<unnamed>" "schema name must not be empty")
  | twoKinds {path : String} {property : Property} (htype : property.typeName.isSome = true)
      (hnested : property.properties.isSome = true) :
      Defect ev (.kind path property)
        (.schema path "a property declares both \"type\" and \"properties\"")
  | noKind {path : String} {property : Property} (htype : property.typeName = none)
      (hnested : property.properties = none) :
      Defect ev (.kind path property)
        (.schema path "a property must declare either \"type\" or \"properties\"")
  | type {text word : String} (hword : LeafType.Misnames (Text.trimString text) word) :
      Defect ev (.type text) (.fieldType word)
  | constraint {path text name : String} {bound : Value} {type : LeafType}
      {itemType : Option ScalarType} {fault : ConstraintFault}
      (htype : LeafType.Declares (Text.trimString text) type itemType)
      (hfault : Constraint.Refuses name bound type fault) :
      Defect ev (.constraint path text name bound) (.schema path fault.message)
  | leafValidator {text name source : String} {property : Property} {type : LeafType}
      {itemType : Option ScalarType} {error : ParseError}
      (htype : LeafType.Declares (Text.trimString text) type itemType)
      (hsource : property.LeafSource name itemType source)
      (herror : ev.compile source = .error error) :
      Defect ev (.leafValidator text name property)
        (ValidatorRequest.unusable (name ++ "_validator") error)
  | validator {name source : String} {error : ParseError}
      (herror : ev.compile source = .error error) :
      Defect ev (.validator name source) (ValidatorRequest.unusable name error)

end Element

/-- The first element that has a defect, and the failure that it leads to. -/
def FirstDefect (ev : Evaluator) (elements : List Element) (failure : Failure) : Prop :=
  ∃ before element after, elements = before ++ element :: after ∧
    (∀ earlier ∈ before, earlier.Sound ev) ∧ element.Defect ev failure

namespace Property

/-- The element of the validator that a group or a document states. -/
def validatorElements (name : String) (spec : Option ValidatorSpec) : List Element :=
  (spec.map fun spec => .validator name spec.text).toList

/-- The elements of a leaf after its kind. -/
def leafElements (path name : String) (property : Property) (text : String) : List Element :=
  .type text :: (property.constraints.map (fun entry => .constraint path text entry.1 entry.2) ++
    [.leafValidator text name property])

mutual

/-- The elements of a property in the order in which they are checked. -/
def elements (owner name : String) : Property → List Element
  | ⟨description, typeName, none, default, constraints, spec, refusesEmpty⟩ =>
      .kind (owner ++ "." ++ name)
          ⟨description, typeName, none, default, constraints, spec, refusesEmpty⟩ ::
        typeName.elim [] (leafElements (owner ++ "." ++ name) name
          ⟨description, typeName, none, default, constraints, spec, refusesEmpty⟩)
  | ⟨description, typeName, some nested, default, constraints, spec, refusesEmpty⟩ =>
      .kind (owner ++ "." ++ name)
          ⟨description, typeName, some nested, default, constraints, spec, refusesEmpty⟩ ::
        (elementsOfAll name nested ++ validatorElements groupValidatorName spec)
termination_by structural property => property

/-- The elements of properties in their order. -/
def elementsOfAll (owner : String) : List (String × Property) → List Element
  | [] => []
  | (name, property) :: rest => property.elements owner name ++ elementsOfAll owner rest
termination_by structural properties => properties

end

end Property

/-- The elements of a document in the order in which they are checked. -/
def Document.elements (document : Document) : List Element :=
  .title document.name ::
    (Property.elementsOfAll document.name document.properties ++
      Property.validatorElements document.validatorName document.validator)

/-! ## Elements in sequence -/

theorem firstDefect_nil (ev : Evaluator) (failure : Failure) : ¬ FirstDefect ev [] failure := by
  rintro ⟨before, element, after, hsplit, _⟩
  cases before <;> cases hsplit

theorem firstDefect_cons {ev : Evaluator} {first : Element} {rest : List Element}
    {failure : Failure} : FirstDefect ev (first :: rest) failure ↔
      first.Defect ev failure ∨ first.Sound ev ∧ FirstDefect ev rest failure := by
  constructor
  · rintro ⟨before, element, after, hsplit, hbefore, hdefect⟩
    cases before with
    | nil =>
        cases hsplit
        exact .inl hdefect
    | cons earlier before =>
        cases hsplit
        rw [List.forall_mem_cons] at hbefore
        exact .inr ⟨hbefore.1, before, element, after, rfl, hbefore.2, hdefect⟩
  · rintro (hdefect | ⟨hsound, before, element, after, rfl, hbefore, hdefect⟩)
    · exact ⟨[], first, rest, rfl, by simp, hdefect⟩
    · exact ⟨first :: before, element, after, rfl,
        List.forall_mem_cons.mpr ⟨hsound, hbefore⟩, hdefect⟩

theorem firstDefect_append {ev : Evaluator} {first second : List Element} {failure : Failure} :
    FirstDefect ev (first ++ second) failure ↔
      FirstDefect ev first failure ∨
        (∀ element ∈ first, element.Sound ev) ∧ FirstDefect ev second failure := by
  induction first with
  | nil => simp [firstDefect_nil]
  | cons element rest ih =>
      rw [List.cons_append, firstDefect_cons, firstDefect_cons, ih, List.forall_mem_cons]
      constructor
      · rintro (hdefect | ⟨hsound, hdefect | ⟨hrest, hdefect⟩⟩)
        · exact .inl (.inl hdefect)
        · exact .inl (.inr ⟨hsound, hdefect⟩)
        · exact .inr ⟨⟨hsound, hrest⟩, hdefect⟩
      · rintro ((hdefect | ⟨hsound, hdefect⟩) | ⟨⟨hsound, hrest⟩, hdefect⟩)
        · exact .inl hdefect
        · exact .inr ⟨hsound, .inl hdefect⟩
        · exact .inr ⟨hsound, .inr ⟨hrest, hdefect⟩⟩

/-- An outcome that depends on elements in order: a result just when all of them are sound, and
otherwise the failure that the first defect leads to. -/
def Judges {α : Type} (ev : Evaluator) (elements : List Element) (outcome : Except Failure α) :
    Prop :=
  Settles outcome (∀ element ∈ elements, element.Sound ev) (FirstDefect ev elements)

namespace Judges

variable {ev : Evaluator} {α β : Type}

theorem nil (a : α) : Judges ev [] (.ok a) :=
  .result a (by simp) (firstDefect_nil ev)

theorem one {element : Element} {outcome : Except Failure α}
    (houtcome : Settles outcome (element.Sound ev) (element.Defect ev)) :
    Judges ev [element] outcome := by
  refine houtcome.congr (by simp) fun failure => ?_
  rw [firstDefect_cons]
  simp [firstDefect_nil]

/-- A sequence of computations is judged by the elements of the first and then by those of the
second. -/
theorem bind {first second : List Element} {outcome : Except Failure α}
    {next : α → Except Failure β} (houtcome : Judges ev first outcome)
    (hnext : ∀ a, outcome = .ok a → Judges ev second (next a)) :
    Judges ev (first ++ second) (outcome >>= next) := by
  cases outcome with
  | error failure =>
      have hunsound : ¬ ∀ element ∈ first, element.Sound ev := by
        intro hsound
        obtain ⟨a, ha⟩ := houtcome.ok.mpr hsound
        cases ha
      refine .failure ?_ (firstDefect_append.mpr (.inl ((houtcome.error failure).mp rfl))) ?_
      · intro hsound
        exact hunsound (List.forall_mem_append.mp hsound).1
      · intro other hother
        rcases firstDefect_append.mp hother with hdefect | ⟨hsound, _⟩
        · exact (Except.error.inj ((houtcome.error other).mpr hdefect)).symm
        · exact absurd hsound hunsound
  | ok a =>
      have hsound := houtcome.ok.mp ⟨a, rfl⟩
      refine (hnext a rfl).congr ?_ fun failure => ?_
      · rw [List.forall_mem_append]
        exact (and_iff_right hsound).symm
      · have hnone : ¬ FirstDefect ev first failure := by
          intro hdefect
          cases (houtcome.error failure).mpr hdefect
        rw [firstDefect_append, or_iff_right hnone]
        exact (and_iff_right hsound).symm

/-- What follows a sound element is judged on its own. -/
theorem after {element : Element} {rest : List Element} {checked : Except Failure α} {a : α}
    {outcome : Except Failure β} (hchecked : Settles checked (element.Sound ev) (element.Defect ev))
    (hok : checked = .ok a) (houtcome : Judges ev rest outcome) :
    Judges ev (element :: rest) outcome := by
  have hjudges := (Judges.one hchecked).bind fun _ _ => houtcome
  rwa [hok] at hjudges

/-- Nothing is checked after an element with a defect. -/
theorem refused {element : Element} {checked : Except Failure α} {failure : Failure}
    (hchecked : Settles checked (element.Sound ev) (element.Defect ev))
    (herror : checked = .error failure) (rest : List Element) :
    Judges ev (element :: rest) (.error failure : Except Failure β) := by
  have hnone (a : α) (hok : checked = .ok a) :
      Judges ev rest (.error failure : Except Failure β) := by
    cases herror.symm.trans hok
  have hjudges := (Judges.one hchecked).bind hnone
  rwa [herror] at hjudges

theorem map {elements : List Element} {outcome : Except Failure α} (f : α → β)
    (houtcome : Judges ev elements outcome) : Judges ev elements (outcome.map f) :=
  Settles.map houtcome f

theorem pure {elements : List Element} {outcome : Except Failure α} (f : α → β)
    (houtcome : Judges ev elements outcome) :
    Judges ev elements (outcome >>= fun a => Pure.pure (f a)) := by
  have hmap : (outcome >>= fun a => Pure.pure (f a)) = outcome.map f := by
    cases outcome <;> rfl
  rw [hmap]
  exact houtcome.map f

end Judges

/-! ## The elements of a leaf -/

namespace Element

variable {ev : Evaluator} {path text name : String} {bound : Value} {property : Property}
  {type : LeafType} {itemType : Option ScalarType} {failure : Failure}
  (htype : LeafType.Declares (Text.trimString text) type itemType)

include htype

theorem sound_constraint :
    (constraint path text name bound).Sound ev ↔ Constraint.Valid name bound type := by
  constructor
  · intro hsound
    exact hsound type itemType htype
  · intro hvalid type' itemType' htype'
    obtain ⟨rfl, rfl⟩ := htype.unique htype'
    exact hvalid

theorem defect_constraint : (constraint path text name bound).Defect ev failure ↔
    ∃ fault, Constraint.Refuses name bound type fault ∧ failure = .schema path fault.message := by
  constructor
  · intro hdefect
    cases hdefect with
    | constraint htype' hfault =>
        obtain ⟨rfl, rfl⟩ := htype.unique htype'
        exact ⟨_, hfault, rfl⟩
  · rintro ⟨fault, hfault, rfl⟩
    exact .constraint htype hfault

theorem sound_leafValidator : (leafValidator text name property).Sound ev ↔
    ∀ source, property.LeafSource name itemType source → ev.Compiles source := by
  constructor
  · intro hsound
    exact hsound type itemType htype
  · intro hcompiles type' itemType' htype'
    obtain ⟨rfl, rfl⟩ := htype.unique htype'
    exact hcompiles

theorem defect_leafValidator : (leafValidator text name property).Defect ev failure ↔
    ∃ source error, property.LeafSource name itemType source ∧ ev.compile source = .error error ∧
      failure = ValidatorRequest.unusable (name ++ "_validator") error := by
  constructor
  · intro hdefect
    cases hdefect with
    | leafValidator htype' hsource herror =>
        obtain ⟨rfl, rfl⟩ := htype.unique htype'
        exact ⟨_, _, hsource, herror, rfl⟩
  · rintro ⟨source, error, hsource, herror, rfl⟩
    exact .leafValidator htype hsource herror

end Element

/-- A request compiles when its source does: what comes before it always does. -/
theorem ValidatorRequest.compile_settles (ev : Evaluator) (request : ValidatorRequest) :
    Settles (request.compile ev) (ev.Compiles request.source) (fun failure =>
      ∃ error, ev.compile request.source = .error error ∧
        failure = unusable request.name error) := by
  have hopening : ∃ opening, request.opening = .ok opening := by
    unfold ValidatorRequest.opening
    split
    · exact ⟨_, parse_refusalOfEmpty⟩
    · exact ⟨_, rfl⟩
  obtain ⟨opening, hopening⟩ := hopening
  unfold ValidatorRequest.compile ValidatorRequest.program Evaluator.Compiles
  cases hsource : ev.compile request.source with
  | error error => 
      exact .failure (by simp) ⟨error, rfl, rfl⟩ (by simp)
  | ok program => 
      simp only [hopening, ok_bind, pure_eq_ok]
      exact .result _ ⟨program, rfl⟩ (by simp)

namespace Property

variable {ev : Evaluator}

theorem modelValidator_judges (name : String) (spec : Option ValidatorSpec) :
    Judges ev (validatorElements name spec) (modelValidator ev name spec) := by
  cases spec with
  | none => exact .nil none
  | some spec =>
      refine .map some (.one ((ValidatorRequest.compile_settles ev _).congr Iff.rfl ?_))
      intro failure
      constructor
      · rintro ⟨error, herror, rfl⟩
        exact .validator herror
      · intro hdefect
        cases hdefect with
        | validator herror => exact ⟨_, herror, rfl⟩

/-- The source of a leaf is that of the request for its validator. -/
theorem leafSource_iff {name : String} {property : Property} {itemType : Option ScalarType}
    {source : String} : property.LeafSource name itemType source ↔
      ∃ request, leafRequest? name property itemType = some request ∧ request.source = source := by
  unfold leafRequest? leafSources
  constructor
  · intro hsource
    cases hsource with
    | stated hspec =>
        rw [hspec]
        exact ⟨_, rfl, rfl⟩
    | checked hspec =>
        rw [hspec]
        exact ⟨_, rfl, rfl⟩
    | joined hspec =>
        rw [hspec]
        exact ⟨_, rfl, rfl⟩
  · rintro ⟨request, hrequest, rfl⟩
    cases hspec : property.validator with
    | none =>
        cases itemType with
        | none => simp [hspec] at hrequest
        | some item =>
            rw [hspec] at hrequest
            cases hrequest
            exact .checked hspec
    | some spec =>
        cases itemType with
        | none =>
            rw [hspec] at hrequest
            cases hrequest
            exact .stated hspec
        | some item =>
            rw [hspec] at hrequest
            cases hrequest
            exact .joined hspec

theorem leafRequest?_name {name : String} {property : Property} {itemType : Option ScalarType}
    {request : ValidatorRequest} (hrequest : leafRequest? name property itemType = some request) :
    request.name = name ++ "_validator" := by
  unfold leafRequest? at hrequest
  split at hrequest
  next => cases hrequest
  next =>
    cases hrequest
    rfl

theorem leafValidator_settles (name : String) (property : Property) (itemType : Option ScalarType) :
    Settles (leafValidator ev name property itemType)
      (∀ source, property.LeafSource name itemType source → ev.Compiles source)
      (fun failure => ∃ source error, property.LeafSource name itemType source ∧
        ev.compile source = .error error ∧
          failure = ValidatorRequest.unusable (name ++ "_validator") error) := by
  simp only [leafValidator_eq, leafSource_iff]
  cases hrequest : leafRequest? name property itemType with
  | none => exact .result none (by simp) (by simp)
  | some request =>
      refine ((ValidatorRequest.compile_settles ev request).map some).congr ?_ fun failure => ?_
      · simp
      · simp [leafRequest?_name hrequest]

/-- The type of a leaf is known when its constraints are read. -/
theorem readConstraints_judges {path text : String} {type : LeafType}
    {itemType : Option ScalarType}
    (htype : LeafType.Declares (Text.trimString text) type itemType) (declared : Table Value) :
    Judges ev (declared.map fun entry => .constraint path text entry.1 entry.2)
      (readConstraints path type declared) := by
  induction declared with
  | nil => exact .nil []
  | cons entry rest ih =>
      obtain ⟨name, bound⟩ := entry
      have hfirst := (Constraint.read_settles name bound type).mapError
        fun fault => Failure.schema path fault.message
      have hread : readConstraints path type ((name, bound) :: rest) =
          ((Constraint.read name bound type).mapError
            fun fault => Failure.schema path fault.message) >>= fun constraint =>
              readConstraints path type rest >>= fun others => Pure.pure (constraint :: others) := by
        rw [readConstraints]
        cases Constraint.read name bound type <;> rfl
      rw [hread]
      refine Judges.bind (.one (hfirst.congr ?_ ?_)) fun constraint _ => ih.pure (constraint :: ·)
      · exact (Element.sound_constraint htype).symm
      · exact fun failure => (Element.defect_constraint htype).symm

/-- A leaf is checked for its type, its constraints in order, and its validator. -/
theorem compileLeaf_judges (owner name : String) (property : Property) (text : String) :
    Judges ev (leafElements (owner ++ "." ++ name) name property text)
      (compileLeaf ev owner name property text) := by
  have htype : Settles (LeafType.declared text) (Element.Sound ev (.type text))
      (Element.Defect ev (.type text)) := by
    refine (LeafType.declared_settles text).congr Iff.rfl fun failure => ?_
    constructor
    · rintro ⟨word, hword, rfl⟩
      exact .type hword
    · intro hdefect
      cases hdefect with
      | type hword => exact ⟨_, hword, rfl⟩
  refine Judges.bind (.one htype) ?_
  rintro ⟨type, itemType⟩ hdeclared
  have hdeclares := LeafType.declares_of_declared hdeclared
  refine (readConstraints_judges hdeclares property.constraints).bind fun constraints _ => ?_
  refine Judges.pure _ (.one ((leafValidator_settles name property itemType).congr ?_ ?_))
  · exact (Element.sound_leafValidator hdeclares).symm
  · exact fun failure => (Element.defect_leafValidator hdeclares).symm

/-! ## Properties and documents -/

/-- A property is of the kind that it states, which is decided before anything else about it. -/
theorem kind_settles (path : String) (property : Property) :
    Settles (property.kind path) (Element.Sound ev (.kind path property))
      (Element.Defect ev (.kind path property)) := by
  unfold kind Element.Sound
  cases htype : property.typeName with
  | none =>
      cases hnested : property.properties with
      | none =>
          refine .failure (by simp [htype, hnested]) (.noKind htype hnested) ?_
          intro other hdefect
          cases hdefect with
          | twoKinds hsome => simp [htype] at hsome
          | noKind => rfl
      | some nested =>
          refine .result _ (by simp [htype, hnested]) ?_
          intro failure hdefect
          cases hdefect with
          | twoKinds hsome => simp [htype] at hsome
          | noKind _ hnone => simp [hnested] at hnone
  | some text =>
      cases hnested : property.properties with
      | none =>
          refine .result _ (by simp [htype, hnested]) ?_
          intro failure hdefect
          cases hdefect with
          | twoKinds _ hsome => simp [hnested] at hsome
          | noKind hnone => simp [htype] at hnone
      | some nested =>
          refine .failure (by simp [htype, hnested]) (.twoKinds (by simp [htype]) (by simp [hnested])) ?_
          intro other hdefect
          cases hdefect with
          | twoKinds => rfl
          | noKind hnone => simp [htype] at hnone

theorem groupHeader_judges (context : Table Value) (name description : String)
    (spec : Option ValidatorSpec) :
    Judges ev (validatorElements groupValidatorName spec)
      (groupHeader ev context name description spec) :=
  (modelValidator_judges groupValidatorName spec).pure _

mutual

/-- A property is checked for its kind, and then as a leaf, or for its properties and its
validator. -/
theorem compile_judges (context : Table Value) :
    ∀ (property : Property) (owner name : String),
      Judges ev (property.elements owner name) (property.compile ev context owner name)
  | ⟨description, some text, some nested, default, constraints, spec, refusesEmpty⟩, owner, name => by
      rw [compile, elements]
      exact Judges.refused (kind_settles (owner ++ "." ++ name)
        ⟨description, some text, some nested, default, constraints, spec, refusesEmpty⟩) rfl _
  | ⟨description, none, none, default, constraints, spec, refusesEmpty⟩, owner, name => by
      rw [compile, elements]
      exact Judges.refused (kind_settles (owner ++ "." ++ name)
        ⟨description, none, none, default, constraints, spec, refusesEmpty⟩) rfl _
  | ⟨description, some text, none, default, constraints, spec, refusesEmpty⟩, owner, name => by
      rw [compile, elements]
      exact Judges.after (kind_settles (owner ++ "." ++ name)
          ⟨description, some text, none, default, constraints, spec, refusesEmpty⟩) rfl
        ((compileLeaf_judges owner name
          ⟨description, some text, none, default, constraints, spec, refusesEmpty⟩ text).pure Field.leaf)
  | ⟨description, none, some nested, default, constraints, spec, refusesEmpty⟩, owner, name => by
      rw [compile, elements]
      refine Judges.after (kind_settles (owner ++ "." ++ name)
        ⟨description, none, some nested, default, constraints, spec, refusesEmpty⟩) rfl ?_
      refine (compileAll_judges context nested name).bind fun fields _ => ?_
      exact (groupHeader_judges context name description spec).pure fun header =>
        Field.group ⟨header, fields⟩
termination_by structural property => property

/-- Properties are checked in their order. -/
theorem compileAll_judges (context : Table Value) :
    ∀ (properties : List (String × Property)) (owner : String),
      Judges ev (elementsOfAll owner properties) (compileAll ev context owner properties)
  | [], owner => by
      rw [compileAll, elementsOfAll]
      exact .nil []
  | (name, property) :: rest, owner => by
      rw [compileAll, elementsOfAll]
      refine (compile_judges context property owner name).bind fun field _ => ?_
      exact (compileAll_judges context rest owner).pure ((name, field) :: ·)
termination_by structural properties => properties

end

end Property

namespace Document

variable {ev : Evaluator}

/-- A document is checked for its name, its properties and its validator. -/
theorem compile_judges (document : Document) :
    Judges ev document.elements (document.compile ev) := by
  unfold Document.compile elements
  cases hname : Text.isBlankLine document.name.toList with
  | true =>
      have hblank : ∀ c ∈ document.name.toList, Unicode.isBlank c = true := by
        simpa [Text.isBlankLine] using hname
      have htitle : Settles
          (.error (.schema "<unnamed>" "schema name must not be empty") : Except Failure Unit)
          (Element.Sound ev (.title document.name))
          (Element.Defect ev (.title document.name)) := by
        refine .failure ?_ (.title hblank) ?_
        · rintro ⟨c, hc, hnonblank⟩
          exact absurd (hblank c hc) (by simp [hnonblank])
        · intro other hdefect
          cases hdefect with
          | title => rfl
      exact Judges.refused htitle rfl _
  | false =>
      have hsound : ∃ c ∈ document.name.toList, Unicode.isBlank c = false := by
        simpa [Text.isBlankLine] using hname
      have htitle : Settles (.ok ()) (Element.Sound ev (.title document.name))
          (Element.Defect ev (.title document.name)) := by
        refine .result () hsound ?_
        intro failure hdefect
        cases hdefect with
        | title hblank =>
            obtain ⟨c, hc, hnonblank⟩ := hsound
            exact absurd (hblank c hc) (by simp [hnonblank])
      refine Judges.after htitle rfl ?_
      refine (Property.compileAll_judges _ _ _).bind fun fields _ => ?_
      exact (Property.modelValidator_judges _ _).pure _

end Document

/-! ## Sound elements -/

namespace Property

variable {ev : Evaluator}

theorem sound_validatorElements {name : String} {spec : Option ValidatorSpec} :
    (∀ element ∈ validatorElements name spec, element.Sound ev) ↔
      ∀ stated, spec = some stated → ev.Compiles stated.text := by
  cases spec with
  | none => simp [validatorElements]
  | some stated => simp [validatorElements, Element.Sound]

theorem sound_leafElements {path name text : String} {property : Property}
    (htext : property.typeName = some text) (hnested : property.properties = none) :
    (∀ element ∈ property.leafElements path name text, element.Sound ev) ↔
      property.WellFormed ev name := by
  unfold leafElements
  rw [List.forall_mem_cons, List.forall_mem_append, List.forall_mem_map, List.forall_mem_singleton]
  constructor
  · rintro ⟨htype, hconstraints, hvalidator⟩
    refine ⟨by simp [htext, hnested], ?_, ?_, ?_, by simp [hnested]⟩
    · intro other hother
      cases htext.symm.trans hother
      exact htype
    · intro other type itemType hother hdeclares entry hentry
      cases htext.symm.trans hother
      exact hconstraints entry hentry type itemType hdeclares
    · intro other type itemType hother
      cases htext.symm.trans hother
      exact hvalidator type itemType
  · intro hwell
    refine ⟨hwell.type text htext, ?_, ?_⟩
    · intro entry hentry type itemType hdeclares
      exact hwell.constraints text type itemType htext hdeclares entry hentry
    · intro type itemType
      exact hwell.leafValidator text type itemType htext

mutual

/-- The elements of a property are sound just when it is well-formed and so are the properties
inside of it. -/
theorem sound_elements : ∀ (property : Property) (owner name : String),
    (∀ element ∈ property.elements owner name, element.Sound ev) ↔
      property.WellFormed ev name ∧
        ∀ table ∈ property.tables, ∀ entry ∈ table, entry.2.WellFormed ev entry.1
  | ⟨description, none, none, default, constraints, spec, refusesEmpty⟩, owner, name => by
      rw [elements, List.forall_mem_cons]
      constructor
      · rintro ⟨hkind, _⟩
        cases hkind
      · rintro ⟨hwell, _⟩
        cases hwell.kind
  | ⟨description, some text, some nested, default, constraints, spec, refusesEmpty⟩,
      owner, name => by
      rw [elements, List.forall_mem_cons]
      constructor
      · rintro ⟨hkind, _⟩
        cases hkind
      · rintro ⟨hwell, _⟩
        cases hwell.kind
  | ⟨description, some text, none, default, constraints, spec, refusesEmpty⟩, owner, name => by
      rw [elements, List.forall_mem_cons, tables, Option.elim_some, sound_leafElements rfl rfl]
      simp [Element.Sound]
  | ⟨description, none, some nested, default, constraints, spec, refusesEmpty⟩, owner, name => by
      rw [elements, List.forall_mem_cons, List.forall_mem_append, tables, List.forall_mem_cons,
        sound_elementsOfAll nested name, sound_validatorElements]
      constructor
      · rintro ⟨_, ⟨hnested, hinside⟩, hspec⟩
        refine ⟨⟨rfl, by simp, by simp, by simp, ?_⟩, hnested, hinside⟩
        intro _ _
        exact hspec
      · rintro ⟨hwell, hnested, hinside⟩
        exact ⟨rfl, ⟨hnested, hinside⟩, hwell.groupValidator nested rfl⟩
termination_by structural property => property

theorem sound_elementsOfAll : ∀ (properties : List (String × Property)) (owner : String),
    (∀ element ∈ elementsOfAll owner properties, element.Sound ev) ↔
      (∀ entry ∈ properties, entry.2.WellFormed ev entry.1) ∧
        ∀ table ∈ tablesOfAll properties, ∀ entry ∈ table, entry.2.WellFormed ev entry.1
  | [], owner => by simp [elementsOfAll, tablesOfAll]
  | (name, property) :: rest, owner => by
      rw [elementsOfAll, tablesOfAll, List.forall_mem_append, List.forall_mem_append,
        List.forall_mem_cons, sound_elements property owner name, sound_elementsOfAll rest owner]
      exact and_and_and_comm
termination_by structural properties => properties

end

end Property

namespace Document

variable {ev : Evaluator}

/-- The elements of a document are sound just when it is well-formed. -/
theorem sound_elements {document : Document} :
    (∀ element ∈ document.elements, element.Sound ev) ↔ document.WellFormed ev := by
  unfold elements
  rw [List.forall_mem_cons, List.forall_mem_append, Property.sound_elementsOfAll,
    Property.sound_validatorElements]
  constructor
  · rintro ⟨hname, ⟨hproperties, hinside⟩, hvalidator⟩
    exact ⟨hname, List.forall_mem_cons.mpr ⟨hproperties, hinside⟩, hvalidator⟩
  · intro hwell
    have hproperties := List.forall_mem_cons.mp hwell.properties
    exact ⟨hwell.name, hproperties, hwell.validator⟩

end Document

end SchemaGuard
