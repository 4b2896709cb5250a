import SchemaGuard.LeafType
import SchemaGuard.Proofs.Outcome
import Mathlib.Data.List.TakeWhile

/-! # Declared types

The text of a type, without the blanks around it, is the name of a type, or the name of a
collection followed by the name of the type of its items in brackets. Any other text is refused,
with the part of it that names nothing.
-/

namespace SchemaGuard

open Outcome

namespace LeafType

/-- What the text of a type declares: a type by its name, or a collection by its name, followed by
the name of the type of its items in brackets. -/
inductive Declares : String → LeafType → Option ScalarType → Prop
  | plain {word : String} {type : LeafType} (htype : ofName? word = some type) :
      Declares word type none
  | bracketed {collection word : String} {type : LeafType} {item : ScalarType}
      (htype : ofName? collection = some type) (hcollection : type.isCollection = true)
      (hitem : ScalarType.ofName? word = some item) :
      Declares (collection ++ "[" ++ word ++ "]") type (some item)

/-- The text of a collection that names the type of its items. -/
def NamesItems (text : String) (item : ScalarType) : Prop :=
  ∃ collection ∈ ["list", "set"], ∃ word,
    text = collection ++ "[" ++ word ++ "]" ∧ ScalarType.ofName? word = some item

/-! ## Names of types -/

/-- No name of a type holds a bracket. -/
theorem bracket_notMem {word : String} {type : LeafType} (hname : ofName? word = some type) :
    '[' ∉ word.toList := by
  unfold ofName? at hname
  split at hname
  next hscalar =>
    unfold ScalarType.ofName? at hscalar
    split at hscalar <;> first | decide | cases hscalar
  next => decide
  next => decide
  next => cases hname

theorem mem_of_isCollection {word : String} {type : LeafType} (hname : ofName? word = some type)
    (hcollection : type.isCollection = true) : word ∈ ["list", "set"] := by
  unfold ofName? at hname
  split at hname
  next =>
    cases hname
    cases hcollection
  next => simp
  next => simp
  next => cases hname

/-- Two texts of collections with items are the same only if their parts are. -/
theorem items_eq_of_text_eq {collection collection' word word' : String}
    (hcollection : collection ∈ ["list", "set"]) (hcollection' : collection' ∈ ["list", "set"])
    (htext : collection ++ "[" ++ word ++ "]" = collection' ++ "[" ++ word' ++ "]") :
    word = word' := by
  have hlist := congrArg String.toList htext
  simp only [List.mem_cons, List.not_mem_nil, or_false] at hcollection hcollection'
  obtain rfl | rfl := hcollection <;> obtain rfl | rfl := hcollection'
  · exact String.toList_inj.mp (by simpa using hlist)
  · simp at hlist
  · simp at hlist
  · exact String.toList_inj.mp (by simpa using hlist)

/-- The type of the items is what the text names in brackets, and there is none otherwise. -/
theorem Declares.itemType_eq_some {text : String} {type : LeafType} {itemType : Option ScalarType}
    (hdeclares : Declares text type itemType) (item : ScalarType) :
    itemType = some item ↔ NamesItems text item := by
  constructor
  · rintro rfl
    cases hdeclares with
    | bracketed htype hcollection hitem =>
        exact ⟨_, mem_of_isCollection htype hcollection, _, rfl, hitem⟩
  · rintro ⟨collection, hmem, word, htext, hword⟩
    cases hdeclares with
    | plain htype =>
        rw [htext] at htype
        exact absurd (by simp) (bracket_notMem htype)
    | bracketed htype hcollection hitem =>
        have heq := items_eq_of_text_eq (mem_of_isCollection htype hcollection) hmem htext
        rw [← hitem, heq, hword]

/-! ## Words -/

/-- A nonempty text of letters, digits and underscores. -/
def IsWord (text : String) : Prop :=
  text ≠ "" ∧ ∀ c ∈ text.toList, Unicode.isWord c = true

theorem isWord_of_mem {word : String} (hmem : word ∈ ["list", "set"]) : IsWord word := by
  simp only [List.mem_cons, List.not_mem_nil, or_false] at hmem
  rcases hmem with rfl | rfl
  · exact ⟨by decide, by simp [Unicode.isWord]⟩
  · exact ⟨by decide, by simp [Unicode.isWord]⟩

theorem exists_collection {word : String} (hmem : word ∈ ["list", "set"]) :
    ∃ type, ofName? word = some type ∧ type.isCollection = true := by
  simp only [List.mem_cons, List.not_mem_nil, or_false] at hmem
  rcases hmem with rfl | rfl
  · exact ⟨list, rfl, rfl⟩
  · exact ⟨set, rfl, rfl⟩

theorem isWord_of_ofName? {word : String} {item : ScalarType}
    (hname : ScalarType.ofName? word = some item) : IsWord word := by
  unfold ScalarType.ofName? at hname
  split at hname <;> cases hname <;> exact ⟨by decide, by simp [Unicode.isWord]⟩

theorem isWord_takeWhile {text : List Char} (hnonempty : text.takeWhile Unicode.isWord ≠ []) :
    IsWord (String.ofList (text.takeWhile Unicode.isWord)) := by
  constructor
  · intro hempty
    exact hnonempty (by simpa using congrArg String.toList hempty)
  · intro c hc
    rw [String.toList_ofList] at hc
    exact List.mem_takeWhile_imp hc

namespace IsWord

variable {word : String} (hword : IsWord word)

include hword

theorem toList_ne_nil : word.toList ≠ [] := by
  simpa using hword.1

theorem takeWhile_append {c : Char} (hc : Unicode.isWord c = false) (rest : List Char) :
    (word.toList ++ c :: rest).takeWhile Unicode.isWord = word.toList := by
  rw [List.takeWhile_append_of_pos hword.2, List.takeWhile_cons]
  simp [hc]

theorem dropWhile_append {c : Char} (hc : Unicode.isWord c = false) (rest : List Char) :
    (word.toList ++ c :: rest).dropWhile Unicode.isWord = c :: rest := by
  rw [List.dropWhile_append_of_pos hword.2, List.dropWhile_cons]
  simp [hc]

end IsWord

/-- A text is taken as a word with a word in brackets just when it is one, but for the blanks around
it. -/
theorem bracketed?_eq_some_iff {text collection word : String} :
    bracketed? text = some (collection, word) ↔
      IsWord collection ∧ IsWord word ∧
        Text.trimString text = collection ++ "[" ++ word ++ "]" := by
  unfold bracketed?
  dsimp only
  constructor
  · intro hbracketed
    split at hbracketed
    next rest hrest =>
      split at hbracketed
      next hparts =>
        cases hbracketed
        refine ⟨isWord_takeWhile hparts.1, isWord_takeWhile hparts.2.1, ?_⟩
        have htrimmed : (Text.trim text.toList).takeWhile Unicode.isWord ++ '[' :: rest =
            Text.trim text.toList := by
          rw [← hrest, List.takeWhile_append_dropWhile]
        have hinside : rest.takeWhile Unicode.isWord ++ [']'] = rest := by
          rw [← hparts.2.2, List.takeWhile_append_dropWhile]
        have htext : Text.trimString text =
            String.ofList ((Text.trim text.toList).takeWhile Unicode.isWord ++
              '[' :: (rest.takeWhile Unicode.isWord ++ [']'])) := by
          rw [hinside, htrimmed, Text.trimString]
        rw [htext]
        apply String.toList_inj.mp
        simp
      next => cases hbracketed
    next => cases hbracketed
  · rintro ⟨hcollection, hword, htext⟩
    have htrimmed : Text.trim text.toList =
        collection.toList ++ '[' :: (word.toList ++ [']']) := by
      simpa [Text.trimString] using congrArg String.toList htext
    have hopen : Unicode.isWord '[' = false := by decide
    have hclose : Unicode.isWord ']' = false := by decide
    rw [htrimmed, hcollection.takeWhile_append hopen, hcollection.dropWhile_append hopen]
    simp only [hword.takeWhile_append hclose, hword.dropWhile_append hclose]
    rw [if_pos ⟨hcollection.toList_ne_nil, hword.toList_ne_nil, trivial⟩, String.ofList_toList,
      String.ofList_toList]

/-! ## Reading of types -/

/-- The declaration of a type is read as what its text without the blanks around it declares. -/
theorem declares_of_declared {text : String} {type : LeafType} {itemType : Option ScalarType}
    (hdeclared : declared text = .ok (type, itemType)) :
    Declares (Text.trimString text) type itemType := by
  unfold declared at hdeclared
  split at hdeclared
  next =>
    obtain ⟨resolved, hresolve, hpair⟩ := bind_eq_ok.mp hdeclared
    cases hpair
    unfold resolve at hresolve
    dsimp only at hresolve
    split at hresolve
    next hname =>
      cases hresolve
      exact .plain hname
    next => cases hresolve
  next collection word hbracketed =>
    rw [(bracketed?_eq_some_iff.mp hbracketed).2.2]
    split at hdeclared
    next => cases hdeclared
    next => cases hdeclared
    next => cases hdeclared
    next hscalar htype hitem =>
      cases hdeclared
      refine .bracketed htype ?_ hitem
      cases type with
      | scalar scalarType => exact absurd rfl (hscalar scalarType)
      | list | set => rfl

/-- What a text that declares no type is refused for. A word with a word in brackets is refused for
the first of them that does not fit, and any other text as a whole. -/
inductive Misnames : String → String → Prop
  | plain {text : String} (hplain : ∀ collection word, IsWord collection → IsWord word →
        text ≠ collection ++ "[" ++ word ++ "]")
      (htype : ofName? text = none) : Misnames text text
  | collection {collection word : String} (hcollection : IsWord collection) (hword : IsWord word)
      (hother : collection ∉ ["list", "set"]) :
      Misnames (collection ++ "[" ++ word ++ "]") collection
  | item {collection word : String} (hcollection : collection ∈ ["list", "set"])
      (hword : IsWord word) (hitem : ScalarType.ofName? word = none) :
      Misnames (collection ++ "[" ++ word ++ "]") word

theorem bracketed?_eq_none_iff {text : String} : bracketed? text = none ↔
    ∀ collection word, IsWord collection → IsWord word →
      Text.trimString text ≠ collection ++ "[" ++ word ++ "]" := by
  rw [Option.eq_none_iff_forall_ne_some]
  constructor
  · intro hnone collection word hcollection hword htext
    exact hnone _ (bracketed?_eq_some_iff.mpr ⟨hcollection, hword, htext⟩)
  · rintro hplain ⟨collection, word⟩ hsome
    obtain ⟨hcollection, hword, htext⟩ := bracketed?_eq_some_iff.mp hsome
    exact hplain collection word hcollection hword htext

/-- A text without brackets is taken by its name. -/
theorem declared_plain {text : String} (hplain : bracketed? text = none) :
    declared text = match ofName? (Text.trimString text) with
      | some type => .ok (type, none)
      | none => .error (.fieldType (Text.trimString text)) := by
  unfold declared resolve
  rw [hplain]
  dsimp only
  cases ofName? (Text.trimString text) <;> rfl

/-- What declares a type but for the blanks around it is read as what it declares. -/
theorem declared_of_declares {text : String} {type : LeafType} {itemType : Option ScalarType}
    (hdeclares : Declares (Text.trimString text) type itemType) :
    declared text = .ok (type, itemType) := by
  generalize htext : Text.trimString text = trimmed at hdeclares
  cases hdeclares with
  | plain htype =>
      have hplain : bracketed? text = none := by
        apply bracketed?_eq_none_iff.mpr
        intro collection word _ _ hbracketed
        rw [← htext, hbracketed] at htype
        exact bracket_notMem htype (by simp)
      rw [declared_plain hplain, htext, htype]
  | bracketed htype hcollection hitem =>
      have hword := isWord_of_mem (mem_of_isCollection htype hcollection)
      have hbracketed := bracketed?_eq_some_iff.mpr ⟨hword, isWord_of_ofName? hitem, htext⟩
      unfold declared
      rw [hbracketed]
      cases type with
      | scalar scalarType => cases hcollection
      | list => simp only [htype, hitem]
      | set => simp only [htype, hitem]

/-- A text declares one type at most. -/
theorem Declares.unique {text : String} {type type' : LeafType}
    {itemType itemType' : Option ScalarType}
    (hdeclares : Declares (Text.trimString text) type itemType)
    (hdeclares' : Declares (Text.trimString text) type' itemType') :
    type = type' ∧ itemType = itemType' := by
  have hdeclared := declared_of_declares hdeclares
  rw [declared_of_declares hdeclares'] at hdeclared
  cases hdeclared
  exact ⟨rfl, rfl⟩

/-- A word that names no collection names a scalar type or nothing. -/
theorem declared_of_other {text collection word : String}
    (hbracketed : bracketed? text = some (collection, word)) (hother : collection ∉ ["list", "set"]) :
    declared text = .error (.fieldType collection) := by
  unfold declared
  rw [hbracketed]
  dsimp only
  cases htype : ofName? collection with
  | none => rfl
  | some type =>
      cases type with
      | scalar scalarType => rfl
      | list => exact absurd (mem_of_isCollection htype rfl) hother
      | set => exact absurd (mem_of_isCollection htype rfl) hother

theorem declared_of_item {text collection word : String}
    (hbracketed : bracketed? text = some (collection, word)) (hcollection : collection ∈ ["list", "set"])
    (hitem : ScalarType.ofName? word = none) : declared text = .error (.fieldType word) := by
  unfold declared
  rw [hbracketed]
  simp only [List.mem_cons, List.not_mem_nil, or_false] at hcollection
  rcases hcollection with rfl | rfl
  · simp only [hitem]
    rfl
  · simp only [hitem]
    rfl

theorem declared_of_misnames {text word : String} (hword : Misnames (Text.trimString text) word) :
    declared text = .error (.fieldType word) := by
  generalize htext : Text.trimString text = trimmed at hword
  cases hword with
  | plain hplain htype =>
      rw [declared_plain (bracketed?_eq_none_iff.mpr (htext ▸ hplain)), htext, htype]
  | collection hcollection hinside hother =>
      exact declared_of_other (bracketed?_eq_some_iff.mpr ⟨hcollection, hinside, htext⟩) hother
  | item hcollection hword hitem =>
      exact declared_of_item
        (bracketed?_eq_some_iff.mpr ⟨isWord_of_mem hcollection, hword, htext⟩) hcollection hitem

/-- Every text declares a type or names something else in the place of one. -/
theorem declares_or_misnames (text : String) :
    (∃ type itemType, Declares (Text.trimString text) type itemType) ∨
      ∃ word, Misnames (Text.trimString text) word := by
  cases hbracketed : bracketed? text with
  | none =>
      cases htype : ofName? (Text.trimString text) with
      | none => exact .inr ⟨_, .plain (bracketed?_eq_none_iff.mp hbracketed) htype⟩
      | some type => exact .inl ⟨type, none, .plain htype⟩
  | some parts =>
      obtain ⟨collection, word⟩ := parts
      obtain ⟨hcollection, hword, htext⟩ := bracketed?_eq_some_iff.mp hbracketed
      rw [htext]
      by_cases hmem : collection ∈ ["list", "set"]
      · cases hitem : ScalarType.ofName? word with
        | none => exact .inr ⟨_, .item hmem hword hitem⟩
        | some item =>
            obtain ⟨type, htype, hcollection⟩ := exists_collection hmem
            exact .inl ⟨type, some item, .bracketed htype hcollection hitem⟩
      · exact .inr ⟨_, .collection hcollection hword hmem⟩

/-- A text declares a type just when it does so without the blanks around it, and otherwise it is
refused for what it names in the place of a type. -/
theorem declared_settles (text : String) :
    Settles (declared text) (∃ type itemType, Declares (Text.trimString text) type itemType)
      (fun failure => ∃ word, Misnames (Text.trimString text) word ∧
        failure = .fieldType word) := by
  constructor
  · constructor
    · rintro ⟨⟨type, itemType⟩, hdeclared⟩
      exact ⟨type, itemType, declares_of_declared hdeclared⟩
    · rintro ⟨type, itemType, hdeclares⟩
      exact ⟨(type, itemType), declared_of_declares hdeclares⟩
  · intro failure
    constructor
    · intro hfailure
      rcases declares_or_misnames text with ⟨type, itemType, hdeclares⟩ | ⟨word, hword⟩
      · rw [declared_of_declares hdeclares] at hfailure
        cases hfailure
      · rw [declared_of_misnames hword] at hfailure
        cases hfailure
        exact ⟨word, hword, rfl⟩
    · rintro ⟨word, hword, rfl⟩
      exact declared_of_misnames hword

end LeafType

end SchemaGuard
