import SchemaGuard.Function.Library
import SchemaGuard.Proofs.Sorting
import SchemaGuard.Proofs.Widths

/-! # How long the results of functions are

Most functions of the library give nothing longer than what they are given, and many only numbers or
truth values. Others lengthen it by a factor: a text of separators has one piece more than it has
characters, two collections are united, and characters can have longer names in the other case. Only
three can square what they are given or write out what is nested in it.
-/

namespace SchemaGuard

open Outcome

variable {limit : Nat}

/-! ## Texts -/

namespace Unicode

theorem length_mapCase_le {expansions : List (Nat × List Nat)} {factor : Nat} (hfactor : 0 < factor)
    (hexpansions : ∀ entry ∈ expansions, entry.2.length ≤ factor) (runs : List CaseRun) (c : Char) :
    (mapCase runs expansions c).length ≤ factor := by
  unfold mapCase
  split
  · exact hfactor
  · split
    next entry hentry =>
      rw [List.length_map]
      exact hexpansions entry (List.mem_of_find?_eq_some hentry)
    next => exact hfactor

theorem length_upperChar_le (c : Char) : (upperChar c).length ≤ 3 := by
  unfold upperChar
  split
  · exact Nat.le_of_ble_eq_true rfl
  · exact length_mapCase_le (by decide) (by decide) upperRuns c

theorem length_lowerChar_le (c : Char) : (lowerChar c).length ≤ 2 := by
  unfold lowerChar
  split
  · exact Nat.le_of_ble_eq_true rfl
  · exact length_mapCase_le (by decide) (by decide) lowerRuns c

theorem length_upperText_le (text : List Char) : (upperText text).length ≤ 3 * text.length := by
  induction text with
  | nil => exact Nat.le_refl 0
  | cons c rest ih =>
      have hchar := length_upperChar_le c
      rw [upperText, List.flatMap_cons, List.length_append, List.length_cons]
      rw [upperText] at ih
      omega

theorem length_lowerFrom_le (before text : List Char) :
    (lowerFrom before text).length ≤ 2 * text.length := by
  induction text generalizing before with
  | nil => exact Nat.le_refl 0
  | cons c rest ih =>
      have hrest := ih (c :: before)
      have hchar := length_lowerChar_le c
      rw [lowerFrom, List.length_append, List.length_cons]
      split
      · rw [List.length_singleton]
        omega
      · omega

end Unicode

namespace Text

theorem length_dropTrailing_le (p : Char → Bool) (text : List Char) :
    (dropTrailing p text).length ≤ text.length := by
  rw [dropTrailing, List.length_reverse]
  exact Nat.le_trans (List.dropWhile_sublist p).length_le (by rw [List.length_reverse])

theorem length_trim_le (text : List Char) : (trim text).length ≤ text.length :=
  Nat.le_trans (length_dropTrailing_le _ _) (List.dropWhile_sublist _).length_le

/-- There is at most one piece more than there are characters, and none is longer than the text. -/
theorem piecesFrom_le (separator : List Char) (text : List Char) (skip : Nat) (piece : List Char) :
    (piecesFrom separator skip piece text).length ≤ text.length + 1 ∧
      ∀ found ∈ piecesFrom separator skip piece text,
        found.length ≤ piece.length + text.length := by
  induction text generalizing skip piece with
  | nil =>
      rw [piecesFrom]
      simp
  | cons c rest ih =>
      cases skip with
      | succ skip =>
          obtain ⟨hcount, hpieces⟩ := ih skip piece
          rw [piecesFrom, List.length_cons]
          exact ⟨by omega, fun found hfound => Nat.le_succ_of_le (hpieces found hfound)⟩
      | zero =>
          rw [piecesFrom]
          split
          · obtain ⟨hcount, hpieces⟩ := ih (separator.length - 1) []
            rw [List.length_cons, List.length_cons]
            refine ⟨by omega, fun found hfound => ?_⟩
            rcases List.mem_cons.mp hfound with rfl | hfound
            · rw [List.length_reverse]
              omega
            · have hfound := hpieces found hfound
              rw [List.length_nil] at hfound
              omega
          · obtain ⟨hcount, hpieces⟩ := ih 0 (c :: piece)
            rw [List.length_cons]
            refine ⟨by omega, fun found hfound => ?_⟩
            have hfound := hpieces found hfound
            rw [List.length_cons] at hfound
            omega

theorem wordsFrom_le (text word : List Char) :
    (wordsFrom word text).length ≤ text.length + 1 ∧
      ∀ found ∈ wordsFrom word text, found.length ≤ word.length + text.length := by
  induction text generalizing word with
  | nil =>
      rw [wordsFrom]
      split <;> simp
  | cons c rest ih =>
      rw [wordsFrom]
      split
      · obtain ⟨hcount, hwords⟩ := ih []
        split
        · rw [List.length_cons]
          refine ⟨by omega, fun found hfound => ?_⟩
          have hfound := hwords found hfound
          rw [List.length_nil] at hfound
          omega
        · rw [List.length_cons, List.length_cons]
          refine ⟨by omega, fun found hfound => ?_⟩
          rcases List.mem_cons.mp hfound with rfl | hfound
          · rw [List.length_reverse]
            omega
          · have hfound := hwords found hfound
            rw [List.length_nil] at hfound
            omega
      · obtain ⟨hcount, hwords⟩ := ih (c :: word)
        rw [List.length_cons]
        refine ⟨by omega, fun found hfound => ?_⟩
        have hfound := hwords found hfound
        rw [List.length_cons] at hfound
        omega

end Text

/-! ## Functions -/

namespace Function

/-- The functions whose results can be longer than any multiple of what they are given. -/
def superlinear : List String :=
  ["join", "replace", "str"]

/-- How many times longer than what it is given the result of any other function can be. -/
def growth (name : String) : Nat :=
  match name with
  | "upper" => 3
  | "lower" | "split" | "union" => 2
  | _ => 1

/-- The arguments of a call are no longer than a limit. -/
abbrev ArgsWithin (limit : Nat) (args : List Value) : Prop :=
  ∀ arg ∈ args, arg.Within limit

variable {args : List Value} {value : Value}

@[simp] theorem miscounted_within (function : String) (args : List Value) :
    YieldsWithin limit (miscounted function args) :=
  Yields.error _

theorem itemsOf_within (function : String) (hvalue : value.Within limit) :
    Yields (fun items => (Value.list items).Within limit) (itemsOf function value) := by
  unfold itemsOf
  split
  next items hitems => exact (Yields.ok_iff _).mpr (hvalue.iterate hitems)
  next => exact Yields.error _

theorem textOf_within (function : String) (hvalue : value.Within limit) :
    Yields (fun text => text.length ≤ limit) (textOf function value) := by
  unfold textOf
  split
  next s =>
    refine (Yields.ok_iff _).mpr ?_
    rw [String.length_toList]
    exact Value.within_str.mp hvalue
  next => exact Yields.error _

theorem ofText_within {text : List Char} : (ofText text).Within limit ↔ text.length ≤ limit := by
  rw [ofText, Value.within_str, String.length_ofList]

theorem ofTexts_within {texts : List (List Char)} (hlength : texts.length ≤ limit)
    (htexts : ∀ text ∈ texts, text.length ≤ limit) :
    (Value.list (texts.map ofText)).Within limit := by
  refine .list (by rwa [List.length_map]) fun item hitem => ?_
  obtain ⟨text, htext, rfl⟩ := List.mem_map.mp hitem
  exact ofText_within.mpr (htexts text htext)

/-! ### Numbers and truth values -/

theorem ofFinite_scalar (x : Option Binary64) : YieldsWithin 0 (ofFinite x) := by
  cases x <;> simp [ofFinite]

/-- A question about a result. -/
theorem asked_scalar {α : Type} (outcome : Except CallError α) (p : α → Bool) :
    YieldsWithin 0 (outcome.map fun a => .bool (p a)) := by
  cases outcome <;> simp

/-- A question about two results. -/
theorem compared_scalar {α β : Type} (outcome : Except CallError α) (outcome' : Except CallError β)
    (p : α → β → Bool) :
    YieldsWithin 0 (do let a ← outcome; let b ← outcome'; pure (.bool (p a b))) :=
  Yields.bind fun _ _ => Yields.bind fun _ _ => by simp

theorem len_scalar (args : List Value) : YieldsWithin 0 (len args) := by
  unfold len
  split <;> simp [Value.ofNat]

theorem contains_scalar (args : List Value) : YieldsWithin 0 (contains args) := by
  unfold contains
  split
  · split <;> simp
  · simp

theorem sumFrom_scalar (start : Total) (collection : Value) :
    YieldsWithin 0 (sumFrom start collection) :=
  Yields.bind fun _ _ => Yields.bind fun total _ => by cases total <;> simp

theorem sum_scalar (args : List Value) : YieldsWithin 0 (sum args) := by
  unfold sum
  split
  · exact sumFrom_scalar _ _
  · exact sumFrom_scalar _ _
  · simp

theorem all_scalar (args : List Value) : YieldsWithin 0 (all args) := by
  unfold all
  split
  · exact asked_scalar _ _
  · simp

theorem any_scalar (args : List Value) : YieldsWithin 0 (any args) := by
  unfold any
  split
  · exact asked_scalar _ _
  · simp

theorem issubset_scalar (args : List Value) : YieldsWithin 0 (issubset args) := by
  unfold issubset
  split
  · exact compared_scalar _ _ _
  · simp

theorem count_scalar (args : List Value) : YieldsWithin 0 (count args) := by
  unfold count
  split
  · simp [Value.ofNat]
  · split <;> simp [Value.ofNat]
  · simp
  · simp

theorem isinstance_scalar (args : List Value) : YieldsWithin 0 (isinstance args) := by
  unfold isinstance
  split
  · exact asked_scalar _ id
  · exact asked_scalar _ id
  · simp

theorem abs_scalar (args : List Value) : YieldsWithin 0 (abs args) := by
  -- The ends of the range are too large for the check to be unfolded.
  obtain ⟨check, hcheck⟩ : ∃ check, check = Int64Range.check? := ⟨_, rfl⟩
  unfold abs
  rw [← hcheck]
  split
  · split
    · split <;> simp
    · simp
    · simp
  · simp

theorem roundWith_scalar (value : Value) (digits : Option Int) :
    YieldsWithin 0 (roundWith value digits) := by
  unfold roundWith
  split
  · simp
  · simp
  · exact ofFinite_scalar _

theorem round_scalar (args : List Value) : YieldsWithin 0 (round args) := by
  unfold round
  split
  · exact roundWith_scalar _ _
  · exact roundWith_scalar _ _
  · simp

theorem bool_scalar (args : List Value) : YieldsWithin 0 (bool args) := by
  unfold bool
  split <;> simp

theorem int_scalar (args : List Value) : YieldsWithin 0 (int args) := by
  unfold int
  split
  · simp
  · split <;> simp
  · simp

theorem float_scalar (args : List Value) : YieldsWithin 0 (float args) := by
  unfold float
  split
  · simp
  · split
    · exact ofFinite_scalar _
    · simp
  · simp

theorem hasMatch_scalar (args : List Value) : YieldsWithin 0 (hasMatch args) := by
  unfold hasMatch
  split
  · split <;> simp
  · simp
  · simp
  · simp

theorem everyChar_scalar (name : String) (p : Char → Bool) (args : List Value) :
    YieldsWithin 0 (everyChar name p args) := by
  unfold everyChar
  split
  · exact asked_scalar _ _
  · simp

theorem related_scalar (name : String) (holds : List Char → List Char → Bool)
    (args : List Value) : YieldsWithin 0 (related name holds args) := by
  unfold related
  split
  · exact compared_scalar _ _ _
  · simp

/-! ### Parts of the arguments -/

theorem extremumFrom_within {function : String} {before : Ordering} {best : Value}
    {items : List Value} (hbest : best.Within limit) (hitems : ∀ item ∈ items, item.Within limit) :
    YieldsWithin limit (extremumFrom function before best items) := by
  induction items generalizing best with
  | nil => exact (Yields.ok_iff _).mpr hbest
  | cons item rest ih =>
      obtain ⟨hitem, hrest⟩ := List.forall_mem_cons.mp hitems
      rw [extremumFrom]
      split
      · exact Yields.error _
      · refine ih ?_ hrest
        split
        · exact hitem
        · exact hbest

theorem extremum_within (function : String) (before : Ordering) (hargs : ArgsWithin limit args) :
    YieldsWithin limit (extremum function before args) := by
  have hextreme {first : Value} {rest : List Value}
      (hitems : ∀ item ∈ first :: rest, item.Within limit) :
      YieldsWithin limit (extremumFrom function before first rest) := by
    obtain ⟨hfirst, hrest⟩ := List.forall_mem_cons.mp hitems
    exact extremumFrom_within hfirst hrest
  unfold extremum
  split
  next single =>
    have hsingle := hargs single List.mem_cons_self
    split
    next items hiterate =>
      have hitems := (Value.within_list.mp (hsingle.iterate hiterate)).2
      cases items with
      | nil => exact Yields.error _
      | cons first rest => exact hextreme hitems
    next => exact Yields.error _
  next =>
    cases args with
    | nil => exact Yields.error _
    | cons first rest => exact hextreme hargs

theorem getOr_within {table key fallback : Value} (htable : table.Within limit)
    (hfallback : fallback.Within limit) : YieldsWithin limit (getOr table key fallback) := by
  unfold getOr
  split
  next entries =>
    refine Yields.bind fun name _ => (Yields.ok_iff _).mpr ?_
    cases hget : Table.get? entries (String.ofList name) with
    | none => exact hfallback
    | some value => exact htable.get? hget
  next => exact Yields.error _

theorem get_within (hargs : ArgsWithin limit args) : YieldsWithin limit (get args) := by
  unfold get
  split
  · exact getOr_within (hargs _ List.mem_cons_self) .null
  · exact getOr_within (hargs _ List.mem_cons_self) (hargs _ (by simp))
  · exact Yields.error _

/-- A list of some of the items that an argument is iterated over. -/
theorem selection_within {select : List Value → List Value} (function : String)
    (hvalue : value.Within limit) (hselect : ∀ items, (select items).Subperm items) :
    YieldsWithin limit ((itemsOf function value).map fun items => .list (select items)) :=
  (itemsOf_within function hvalue).map fun items hitems => hitems.subperm (hselect items)

theorem dedup_subperm (items : List Value) : (Value.dedup items).Subperm items := by
  suffices h : ∀ kept, (Value.dedupInto kept items).Sublist (kept ++ items) from (h []).subperm
  intro kept
  induction items generalizing kept with
  | nil => rw [Value.dedupInto, List.append_nil]
  | cons item rest ih =>
      rw [Value.dedupInto]
      split
      · exact (ih kept).trans ((List.sublist_cons_self item rest).append_left kept)
      · have hnext := ih (kept ++ [item])
        rwa [List.append_assoc, List.singleton_append] at hnext

theorem list_within (hargs : ArgsWithin limit args) : YieldsWithin limit (list args) := by
  unfold list
  split
  · exact (Yields.ok_iff _).mpr (.list (Nat.zero_le _) fun item hitem => nomatch hitem)
  · exact selection_within "list" (hargs _ List.mem_cons_self) fun items => .refl items
  · exact Yields.error _

theorem set_within (hargs : ArgsWithin limit args) : YieldsWithin limit (set args) := by
  unfold set
  split
  · exact (Yields.ok_iff _).mpr (.list (Nat.zero_le _) fun item hitem => nomatch hitem)
  · exact selection_within "set" (hargs _ List.mem_cons_self) dedup_subperm
  · exact Yields.error _

theorem sorted_within (hargs : ArgsWithin limit args) : YieldsWithin limit (sorted args) := by
  unfold sorted
  split
  · refine (itemsOf_within "sorted" (hargs _ List.mem_cons_self)).next fun items hitems => ?_
    split
    next result hsort =>
      exact (Yields.ok_iff _).mpr (hitems.subperm (Value.sort?_perm hsort).subperm)
    next => exact Yields.error _
  · exact Yields.error _

/-- The items of one collection that pass a test against another one. -/
theorem filtered_within {left right : Value} (function : String) (hleft : left.Within limit)
    (passes : List Value → Value → Bool) :
    YieldsWithin limit (do
      let other ← itemsOf function right
      let items ← itemsOf function left
      pure (.list ((Value.dedup items).filter (passes other)))) := by
  refine Yields.bind fun other _ => (itemsOf_within function hleft).next fun items hitems => ?_
  refine (Yields.ok_iff _).mpr (hitems.subperm ?_)
  exact List.filter_sublist.subperm.trans (dedup_subperm items)

theorem difference_within (hargs : ArgsWithin limit args) :
    YieldsWithin limit (difference args) := by
  unfold difference
  split
  · exact filtered_within _ (hargs _ List.mem_cons_self) fun other item =>
      !Value.memberOf other item
  · simp

theorem intersection_within (hargs : ArgsWithin limit args) :
    YieldsWithin limit (intersection args) := by
  unfold intersection
  split
  · exact filtered_within _ (hargs _ List.mem_cons_self) Value.memberOf
  · simp

theorem keys_within (hargs : ArgsWithin limit args) : YieldsWithin limit (keys args) := by
  unfold keys
  split
  next entries =>
    have hentries := hargs (.dict entries) List.mem_cons_self
    exact (Yields.ok_iff _).mpr (hentries.iterate rfl)
  next => exact Yields.error _
  next => exact Yields.error _

theorem values_within (hargs : ArgsWithin limit args) : YieldsWithin limit (values args) := by
  unfold values
  split
  next entries =>
    cases hargs (.dict entries) List.mem_cons_self with
    | dict hlength _ hvalues =>
        refine (Yields.ok_iff _).mpr (.list (by rwa [List.length_map]) fun item hitem => ?_)
        obtain ⟨entry, hentry, rfl⟩ := List.mem_map.mp hitem
        exact hvalues entry hentry
  next => exact Yields.error _
  next => exact Yields.error _

/-- The lengths of two collections add up in their union. -/
theorem union_within {left right : Value} {limit' : Nat} (hleft : left.Within limit)
    (hright : right.Within limit') : YieldsWithin (limit + limit') (union [left, right]) := by
  refine (itemsOf_within "union" hleft).next fun items hitems =>
    (itemsOf_within "union" hright).next fun other hother => (Yields.ok_iff _).mpr ?_
  obtain ⟨hlength, hall⟩ := Value.within_list.mp hitems
  obtain ⟨hlength', hall'⟩ := Value.within_list.mp hother
  have happend : (Value.list (items ++ other)).Within (limit + limit') := by
    refine .list (by rw [List.length_append]; omega) fun item hitem => ?_
    rcases List.mem_append.mp hitem with hitem | hitem
    · exact (hall item hitem).mono (Nat.le_add_right _ _)
    · exact (hall' item hitem).mono (Nat.le_add_left _ _)
  exact happend.subperm (dedup_subperm _)

/-! ### Texts -/

theorem transform_within {change : List Char → List Char} {factor : Nat} (name : String)
    (hchange : ∀ text, (change text).length ≤ factor * text.length)
    (hargs : ArgsWithin limit args) :
    YieldsWithin (factor * limit) (transform name change args) := by
  unfold transform
  split
  · refine (textOf_within name (hargs _ List.mem_cons_self)).map fun text htext => ?_
    exact ofText_within.mpr (Nat.le_trans (hchange text) (Nat.mul_le_mul_left _ htext))
  · exact Yields.error _

theorem splitWords_within {value : Value} (hpos : 0 < limit) (hvalue : value.Within limit) :
    YieldsWithin (2 * limit) (splitWords value) := by
  refine (textOf_within "split" hvalue).map fun text htext => ?_
  obtain ⟨hcount, hwords⟩ := Text.wordsFrom_le text []
  refine ofTexts_within (by rw [Text.words]; omega) fun word hword => ?_
  have hword := hwords word hword
  rw [List.length_nil] at hword
  omega

/-- A text of separators has one piece more than it has characters. -/
theorem split_within (hpos : 0 < limit) (hargs : ArgsWithin limit args) :
    YieldsWithin (2 * limit) (split args) := by
  unfold split
  split
  · exact splitWords_within hpos (hargs _ List.mem_cons_self)
  · exact splitWords_within hpos (hargs _ List.mem_cons_self)
  · refine (textOf_within "split" (hargs _ List.mem_cons_self)).next fun text htext =>
      Yields.bind fun separator _ => ?_
    split
    · exact Yields.error _
    · obtain ⟨hcount, hpieces⟩ := Text.piecesFrom_le separator text 0 []
      have hlength : (Text.splitOn separator text).length ≤ 2 * limit := by
        rw [Text.splitOn]
        omega
      refine (Yields.ok_iff _).mpr (ofTexts_within hlength fun piece hpiece => ?_)
      have hpiece := hpieces piece hpiece
      rw [List.length_nil] at hpiece
      omega
  · exact Yields.error _

/-! ### The library -/

/-- A function that lengthens what it is given by no more than its factor. -/
def Lengthens (function : Function) : Prop :=
  ∀ limit args, 0 < limit → ArgsWithin limit args →
    YieldsWithin (growth function.name * limit) (function.apply args)

theorem lengthens_of_scalar {function : Function}
    (hscalar : ∀ args, YieldsWithin 0 (function.apply args)) : function.Lengthens :=
  fun _ args _ _ => (hscalar args).mono (Nat.zero_le _)

theorem lengthens_of_within {function : Function} (hgrowth : growth function.name = 1)
    (hwithin : ∀ {limit args}, ArgsWithin limit args → YieldsWithin limit (function.apply args)) :
    function.Lengthens := by
  intro limit args _ hargs
  rw [hgrowth, Nat.one_mul]
  exact hwithin hargs

theorem union_lengthens : Lengthens ⟨"union", .range 2 (some 2), union⟩ := by
  intro limit args _ hargs
  dsimp only
  unfold union
  split
  next left right =>
    show YieldsWithin (2 * limit) (union [left, right])
    rw [Nat.two_mul]
    exact union_within (hargs left (by simp)) (hargs right (by simp))
  next => exact Yields.error _

theorem collections_lengthen : ∀ function ∈ collections, function.Lengthens := by
  simp only [collections, List.forall_mem_cons]
  exact ⟨lengthens_of_scalar len_scalar, lengthens_of_scalar contains_scalar,
    lengthens_of_within rfl (extremum_within _ _), lengthens_of_within rfl (extremum_within _ _),
    lengthens_of_scalar sum_scalar, lengthens_of_scalar all_scalar,
    lengthens_of_scalar any_scalar, lengthens_of_within rfl sorted_within,
    lengthens_of_within rfl set_within, lengthens_of_within rfl list_within,
    lengthens_of_within rfl difference_within, lengthens_of_within rfl intersection_within,
    union_lengthens, lengthens_of_scalar issubset_scalar, lengthens_of_scalar count_scalar,
    lengthens_of_within rfl get_within, lengthens_of_within rfl keys_within,
    lengthens_of_within rfl values_within, fun _ hmem => nomatch hmem⟩

theorem numbers_lengthen :
    ∀ function ∈ numbers, function.name ∉ superlinear → function.Lengthens := by
  simp only [numbers, List.forall_mem_cons]
  exact ⟨fun _ => lengthens_of_scalar isinstance_scalar, fun _ => lengthens_of_scalar abs_scalar,
    fun _ => lengthens_of_scalar round_scalar, fun hname => absurd (by decide) hname,
    fun _ => lengthens_of_scalar bool_scalar, fun _ => lengthens_of_scalar int_scalar,
    fun _ => lengthens_of_scalar float_scalar, fun _ hmem => nomatch hmem⟩

theorem transform_lengthens {name : String} {arity : Arity} {change : List Char → List Char}
    (hchange : ∀ text, (change text).length ≤ growth name * text.length) :
    Lengthens ⟨name, arity, transform name change⟩ :=
  fun _ _ _ hargs => transform_within name hchange hargs

theorem texts_lengthen :
    ∀ function ∈ texts, function.name ∉ superlinear → function.Lengthens := by
  simp only [texts, List.forall_mem_cons]
  refine ⟨fun _ => lengthens_of_scalar hasMatch_scalar,
    fun _ => transform_lengthens Unicode.length_upperText_le,
    fun _ => transform_lengthens (Unicode.length_lowerFrom_le []),
    fun _ => transform_lengthens fun text => ?_,
    fun _ => lengthens_of_scalar (everyChar_scalar _ _),
    fun _ => lengthens_of_scalar (everyChar_scalar _ _),
    fun _ => lengthens_of_scalar (everyChar_scalar _ _),
    fun _ => lengthens_of_scalar (related_scalar _ _),
    fun _ => lengthens_of_scalar (related_scalar _ _), fun hname => absurd (by decide) hname,
    fun _ _ _ hpos hargs => split_within hpos hargs, fun hname => absurd (by decide) hname,
    fun _ hmem => nomatch hmem⟩
  show (Text.trim text).length ≤ 1 * text.length
  rw [Nat.one_mul]
  exact Text.length_trim_le text

/-- A call of a function of the library, the three apart, lengthens its arguments by no more than
the factor of the function. -/
theorem builtin_lengthens {name : String} (hname : name ∉ superlinear) (hpos : 0 < limit)
    (hargs : ArgsWithin limit args) :
    YieldsWithin (growth name * limit) (Registry.builtin.call name args) := by
  unfold Registry.call
  split
  next function hget =>
    have hmem : (name, function) ∈
        (collections ++ numbers ++ texts).map fun function => (function.name, function) :=
      Table.mem_of_get? hget
    obtain ⟨found, hfound, heq⟩ := List.mem_map.mp hmem
    cases heq
    have hlengthens : function.Lengthens := by
      rcases List.mem_append.mp hfound with hfound | htexts
      · rcases List.mem_append.mp hfound with hcollections | hnumbers
        · exact collections_lengthen function hcollections
        · exact numbers_lengthen function hnumbers hname
      · exact texts_lengthen function htexts hname
    unfold call
    split
    · exact Yields.error _
    · exact hlengthens limit args hpos hargs
  next => exact Yields.error _

end Function

end SchemaGuard
