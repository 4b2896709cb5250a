import SchemaGuard.Proofs.Datum
import SchemaGuard.Proofs.Equality
import SchemaGuard.Proofs.Rounding
import Mathlib.Data.List.Perm.Subperm
import Mathlib.Logic.Relation

/-! # Equality as an equivalence

Equality is reflexive and symmetric. It is transitive except where integers collide: two integers of
64 bits are compared as they are, but each of them is compared with a floating point number after
rounding, so one floating point number may be equal to both.
-/

namespace SchemaGuard.Value

open Table

variable {a b c : Value}

/-! ## Parts -/

/-- A place in a list or in a table. -/
inductive Place where
  | index (i : Nat)
  | name (name : String)
deriving DecidableEq, Repr

/-- What a list or a table has at a place. -/
def part? : Value → Place → Option Value
  | list items, .index i => items[i]?
  | dict entries, .name name => get? entries name
  | _, _ => none

/-- A value at some place of another. -/
def Part (part whole : Value) : Prop :=
  ∃ place, whole.part? place = some part

theorem Part.cases {part whole : Value} (hpart : Part part whole) :
    (∃ items, whole = list items ∧ part ∈ items) ∨
      ∃ entries name, whole = dict entries ∧ (name, part) ∈ entries := by
  obtain ⟨place, hplace⟩ := hpart
  unfold part? at hplace
  split at hplace
  next items i => exact .inl ⟨items, rfl, List.mem_of_getElem? hplace⟩
  next entries name => exact .inr ⟨entries, name, rfl, mem_of_get? hplace⟩
  next => cases hplace

/-- Only lists and tables have parts. -/
theorem Part.float?_eq_none {part whole : Value} (hpart : Part part whole) :
    whole.float? = none := by
  rcases hpart.cases with ⟨items, rfl, -⟩ | ⟨entries, name, rfl, -⟩ <;> rfl

theorem Part.sizeOf_lt {part whole : Value} (hpart : Part part whole) :
    sizeOf part < sizeOf whole := by
  rcases hpart.cases with ⟨items, rfl, hitem⟩ | ⟨entries, name, rfl, hentry⟩
  · have hlt := List.sizeOf_lt_of_mem hitem
    rw [list.sizeOf_spec]
    omega
  · have hlt := List.sizeOf_lt_of_mem hentry
    rw [Prod.mk.sizeOf_spec] at hlt
    rw [dict.sizeOf_spec]
    omega

/-- What holds of a value if it holds of the parts, holds of all values. -/
theorem part_induction {motive : Value → Prop}
    (step : ∀ whole, (∀ part, Part part whole → motive part) → motive whole) (value : Value) :
    motive value :=
  step value fun part _hpart => part_induction step part
termination_by value
decreasing_by exact _hpart.sizeOf_lt

theorem bindsOnceIn_iff {items : List Value} :
    BindsOnceIn items ↔ ∀ item ∈ items, item.BindsOnce := by
  induction items with
  | nil => simp [BindsOnceIn]
  | cons item rest ih => rw [BindsOnceIn, List.forall_mem_cons, ih]

theorem Part.bindsOnce {part whole : Value} (hpart : Part part whole) (hwhole : whole.BindsOnce) :
    part.BindsOnce := by
  rcases hpart.cases with ⟨items, rfl, hitem⟩ | ⟨entries, name, rfl, hentry⟩
  · exact bindsOnceIn_iff.mp hwhole _ hitem
  · exact bindsOnceUnder_iff.mp hwhole.2 _ hentry

/-! ## Equality of numbers -/

theorem numberEqual_comm (a b : Value) : numberEqual a b = numberEqual b a := by
  unfold numberEqual
  cases a.int64? <;> cases b.int64? <;> cases a.float? <;> cases b.float? <;>
    simp only [Binary64.equal, Bool.beq_comm]

theorem numberEqual_self {x : Binary64} (hx : a.float? = some x) : numberEqual a a = true := by
  unfold numberEqual
  cases a.int64? with
  | some i => exact beq_self_eq_true i
  | none =>
      rw [hx]
      exact beq_self_eq_true x.units

/-- Equal numbers are the same number after rounding. -/
theorem units_eq_of_numberEqual (hequal : numberEqual a b = true) :
    ∃ x y, a.float? = some x ∧ b.float? = some y ∧ x.units = y.units := by
  unfold numberEqual at hequal
  split at hequal
  next i j hi hj =>
    cases beq_iff_eq.mp hequal
    rw [eq_int_of_int64? hi, eq_int_of_int64? hj]
    exact ⟨_, _, rfl, rfl, rfl⟩
  next =>
    split at hequal
    next x y hx hy => exact ⟨x, y, hx, hy, beq_iff_eq.mp hequal⟩
    next => cases hequal

theorem equal_numbers {x y : Binary64} (hx : a.float? = some x) (hy : b.float? = some y) :
    equal a b = numberEqual a b := by
  cases a <;> cases hx <;> cases b <;> cases hy <;> rfl

/-! ## Equality part by part -/

/-- What two values hold at one place is equal, or neither holds anything there. -/
def EqualFound : Option Value → Option Value → Prop :=
  Option.Rel fun a b => equal a b = true

theorem EqualFound.eq_none_iff {left right : Option Value} (hfound : EqualFound left right) :
    left = none ↔ right = none := by
  cases hfound <;> simp

/-- Lists are equal if what they hold at every index is equal. -/
theorem equal_list_iff {l r : List Value} :
    equal (list l) (list r) = true ↔ ∀ i : Nat, EqualFound l[i]? r[i]? := by
  rw [equal]
  induction l generalizing r with
  | nil =>
      cases r with
      | nil =>
          rw [equalList, eq_self, true_iff]
          exact fun i => .none
      | cons b r => exact iff_of_false Bool.false_ne_true fun hitems => nomatch hitems 0
  | cons a l ih =>
      cases r with
      | nil => exact iff_of_false Bool.false_ne_true fun hitems => nomatch hitems 0
      | cons b r =>
          rw [equalList, Bool.and_eq_true, ih]
          constructor
          · rintro ⟨hfirst, hrest⟩ i
            cases i with
            | zero => exact .some hfirst
            | succ i => exact hrest i
          · intro hitems
            refine ⟨?_, fun i => hitems (i + 1)⟩
            cases hitems 0 with
            | some hfirst => exact hfirst

theorem equalEntries_iff {l r : Table Value} : equalEntries l r = true ↔
    ∀ entry ∈ l, ∃ found, get? r entry.1 = some found ∧ equal entry.2 found = true := by
  induction l with
  | nil => simp [equalEntries]
  | cons entry rest ih =>
      rw [equalEntries, Bool.and_eq_true, ih, List.forall_mem_cons]
      cases get? r entry.1 with
      | none => simp
      | some found => simp

/-- Tables are equal if what they bind every name to is equal. -/
theorem equal_dict_iff {l r : Table Value} (hl : (keys l).Nodup) (hr : (keys r).Nodup) :
    equal (dict l) (dict r) = true ↔ ∀ name, EqualFound (get? l name) (get? r name) := by
  rw [equal, Bool.and_eq_true, beq_iff_eq, equalEntries_iff]
  constructor
  · rintro ⟨hlength, hentries⟩ name
    cases hvalue : get? l name with
    | some value =>
        obtain ⟨found, hfound, hequal⟩ := hentries _ (mem_of_get? hvalue)
        rw [hfound]
        exact .some hequal
    | none =>
        -- The second table binds all names of the first, and as many names.
        have hsubset : keys l ⊆ keys r := by
          intro name hname
          obtain ⟨value, hvalue⟩ := exists_of_mem_keys hname
          obtain ⟨found, hfound, -⟩ := hentries _ (mem_of_get? hvalue)
          exact mem_keys_of_get? hfound
        have hnames : (keys l).Perm (keys r) := by
          apply (List.subperm_of_subset hl hsubset).perm_of_length_le
          rw [keys, keys, List.length_map, List.length_map, hlength]
        rw [get?_eq_none_iff, hnames.mem_iff] at hvalue
        rw [get?_eq_none_iff.mpr hvalue]
        exact .none
  · intro hnames
    have hkeys : (keys l).Perm (keys r) := by
      refine (List.perm_ext_iff_of_nodup hl hr).mpr fun name => ?_
      rw [← not_iff_not, ← get?_eq_none_iff, ← get?_eq_none_iff]
      exact (hnames name).eq_none_iff
    refine ⟨?_, ?_⟩
    · simpa [keys] using hkeys.length_eq
    · intro entry hentry
      have hname := hnames entry.1
      rw [get?_of_mem hl hentry] at hname
      generalize get? r entry.1 = found at hname ⊢
      cases hname with
      | some hequal => exact ⟨_, rfl, hequal⟩

/-- Two lists or two tables. -/
def SameShape : Value → Value → Prop
  | list _, list _ | dict _, dict _ => True
  | _, _ => False

theorem SameShape.cases (hshape : SameShape a b) :
    (∃ l r, a = list l ∧ b = list r) ∨ ∃ l r, a = dict l ∧ b = dict r := by
  unfold SameShape at hshape
  split at hshape
  next l r => exact .inl ⟨l, r, rfl, rfl⟩
  next l r => exact .inr ⟨l, r, rfl, rfl⟩
  next => exact hshape.elim

theorem SameShape.symm (hshape : SameShape a b) : SameShape b a := by
  rcases hshape.cases with ⟨l, r, rfl, rfl⟩ | ⟨l, r, rfl, rfl⟩ <;> trivial

theorem SameShape.trans (hab : SameShape a b) (hbc : SameShape b c) : SameShape a c := by
  rcases hab.cases with ⟨l, m, rfl, rfl⟩ | ⟨l, m, rfl, rfl⟩ <;> cases c <;> exact hbc

/-- Lists and tables have no floating point view. -/
theorem SameShape.float?_eq_none (hshape : SameShape a b) : a.float? = none := by
  rcases hshape.cases with ⟨l, r, rfl, rfl⟩ | ⟨l, r, rfl, rfl⟩ <;> rfl

/-- Lists are equal, and so are tables, if they have equal parts at every place. -/
theorem equal_iff_parts (hshape : SameShape a b) (ha : a.BindsOnce) (hb : b.BindsOnce) :
    equal a b = true ↔ ∀ place, EqualFound (a.part? place) (b.part? place) := by
  rcases hshape.cases with ⟨l, r, rfl, rfl⟩ | ⟨l, r, rfl, rfl⟩
  · rw [equal_list_iff]
    constructor
    · intro hequal place
      cases place with
      | index i => exact hequal i
      | name name => exact .none
    · exact fun hparts i => hparts (.index i)
  · rw [equal_dict_iff ha.1 hb.1]
    constructor
    · intro hequal place
      cases place with
      | index i => exact .none
      | name name => exact hequal name
    · exact fun hparts name => hparts (.name name)

/-- Equal values are the same, or equal numbers, or two lists or two tables. -/
theorem equal_cases (hequal : equal a b = true) :
    a = b ∨ numberEqual a b = true ∨ SameShape a b := by
  unfold equal at hequal
  split at hequal
  case h_1 => exact .inl rfl
  case h_2 => exact .inl (congrArg bool (beq_iff_eq.mp hequal))
  case h_7 => exact .inl (congrArg str (beq_iff_eq.mp hequal))
  case h_8 => exact .inr (.inr trivial)
  case h_9 => exact .inr (.inr trivial)
  case h_10 => cases hequal
  all_goals exact .inr (.inl hequal)

/-! ## Reflexivity and symmetry -/

theorem EqualFound.refl {found : Option Value} (hfound : ∀ a, found = some a → equal a a = true) :
    EqualFound found found := by
  cases found with
  | none => exact .none
  | some a => exact .some (hfound a rfl)

theorem EqualFound.symm {left right : Option Value} (hfound : EqualFound left right)
    (hequal : ∀ a b, left = some a → right = some b → equal a b = true → equal b a = true) :
    EqualFound right left := by
  cases hfound with
  | none => exact .none
  | some hab => exact .some (hequal _ _ rfl rfl hab)

/-- Every value is equal to itself. -/
theorem equal_refl (ha : a.BindsOnce) : equal a a = true := by
  induction a using part_induction with
  | step a ih =>
      cases a with
      | null => rfl
      | bool b => exact beq_self_eq_true b
      | int i => exact numberEqual_self (a := int i) rfl
      | float x => exact numberEqual_self (a := float x) rfl
      | str s => exact beq_self_eq_true s
      | list | dict =>
          refine (equal_iff_parts ?_ ha ha).mpr fun place => .refl fun part hplace => ?_
          · trivial
          · have hpart : Part part _ := ⟨place, hplace⟩
            exact ih part hpart (hpart.bindsOnce ha)

theorem equal_symm (ha : a.BindsOnce) (hb : b.BindsOnce) (hequal : equal a b = true) :
    equal b a = true := by
  induction a using part_induction generalizing b with
  | step a ih =>
      rcases equal_cases hequal with rfl | hnumbers | hshape
      · exact hequal
      · obtain ⟨x, y, hx, hy, -⟩ := units_eq_of_numberEqual hnumbers
        rw [equal_numbers hy hx, numberEqual_comm, hnumbers]
      · rw [equal_iff_parts hshape ha hb] at hequal
        rw [equal_iff_parts hshape.symm hb ha]
        intro place
        refine (hequal place).symm fun left right hleft hright => ?_
        have hpart : Part left a := ⟨place, hleft⟩
        have hpart' : Part right b := ⟨place, hright⟩
        exact ih left hpart (hpart.bindsOnce ha) (hpart'.bindsOnce hb)

/-- Equality does not depend on the order of the two values. -/
theorem equal_comm (ha : a.BindsOnce) (hb : b.BindsOnce) : equal a b = equal b a := by
  rw [Bool.eq_iff_iff]
  exact ⟨equal_symm ha hb, equal_symm hb ha⟩

/-! ## Collisions -/

/-- Two values have, at the same place at some depth, two different integers of 64 bits that are one
floating point number. -/
inductive Collides : Value → Value → Prop
  | integers {i j : Int} : Int64Range.holds i = true → Int64Range.holds j = true → i ≠ j →
      (Binary64.ofInt i).units = (Binary64.ofInt j).units → Collides (int i) (int j)
  | parts {left right a b : Value} (place : Place) :
      left.part? place = some a → right.part? place = some b → Collides a b → Collides left right

/-- Only integers beyond 53 bits collide. -/
theorem Collides.large (hcollides : Collides a b) :
    ∃ i : Int, Relation.ReflTransGen Part (int i) a ∧ 2 ^ 53 ≤ i.natAbs := by
  induction hcollides with
  | integers _ _ hne hunits => exact ⟨_, .refl, Binary64.natAbs_of_units_eq hne hunits⟩
  | parts place hleft _ _ ih =>
      obtain ⟨i, hwithin, hlarge⟩ := ih
      exact ⟨i, hwithin.tail ⟨place, hleft⟩, hlarge⟩

/-- Values that collide are not equal. -/
theorem Collides.not_equal (hcollides : Collides a b) (ha : a.BindsOnce) (hb : b.BindsOnce) :
    ¬ equal a b = true := by
  induction hcollides with
  | integers hi hj hne _ =>
      rw [equal, numberEqual, int64?_int hi, int64?_int hj]
      exact fun hequal => hne (beq_iff_eq.mp hequal)
  | @parts left right a b place hleft hright _ ih =>
      have hpart : Part a left := ⟨place, hleft⟩
      have hpart' : Part b right := ⟨place, hright⟩
      have hunequal := ih (hpart.bindsOnce ha) (hpart'.bindsOnce hb)
      intro hequal
      rcases equal_cases hequal with rfl | hnumbers | hshape
      · cases hleft.symm.trans hright
        exact hunequal (equal_refl (hpart.bindsOnce ha))
      · obtain ⟨x, y, hx, -, -⟩ := units_eq_of_numberEqual hnumbers
        cases hpart.float?_eq_none.symm.trans hx
      · have hplace := (equal_iff_parts hshape ha hb).mp hequal place
        rw [hleft, hright] at hplace
        cases hplace with
        | some hparts => exact hunequal hparts

/-! ## Transitivity -/

theorem numberEqual_or_collides (hab : numberEqual a b = true) (hbc : numberEqual b c = true) :
    numberEqual a c = true ∨ Collides a c := by
  obtain ⟨x, y, hx, hy, hxy⟩ := units_eq_of_numberEqual hab
  obtain ⟨y', z, hy', hz, hyz⟩ := units_eq_of_numberEqual hbc
  cases hy.symm.trans hy'
  have hunits := hxy.trans hyz
  unfold numberEqual
  split
  next i k hi hk =>
    by_cases hik : i = k
    · exact .inl (beq_iff_eq.mpr hik)
    · obtain ⟨rfl, hirange⟩ := int64?_eq_some hi
      obtain ⟨rfl, hkrange⟩ := int64?_eq_some hk
      cases hx
      cases hz
      exact .inr (.integers hirange hkrange hik hunits)
  next =>
    rw [hx, hz]
    exact .inl (beq_iff_eq.mpr hunits)

theorem EqualFound.or_collides {left middle right : Option Value} (hleft : EqualFound left middle)
    (hright : EqualFound middle right)
    (hequal : ∀ a b c, left = some a → middle = some b → right = some c → equal a b = true →
      equal b c = true → equal a c = true ∨ Collides a c) :
    EqualFound left right ∨ ∃ a c, left = some a ∧ right = some c ∧ Collides a c := by
  cases hleft with
  | none =>
      cases hright
      exact .inl .none
  | some hab =>
      cases hright with
      | some hbc =>
          rcases hequal _ _ _ rfl rfl rfl hab hbc with hac | hcollides
          · exact .inl (.some hac)
          · exact .inr ⟨_, _, rfl, rfl, hcollides⟩

/-- Values that are equal to one value are equal, or they collide. -/
theorem equal_or_collides (ha : a.BindsOnce) (hb : b.BindsOnce) (hc : c.BindsOnce)
    (hab : equal a b = true) (hbc : equal b c = true) : equal a c = true ∨ Collides a c := by
  induction a using part_induction generalizing b c with
  | step a ih =>
      rcases equal_cases hab with rfl | hleft | hshape
      · exact .inl hbc
      · obtain ⟨x, y, hx, hy, -⟩ := units_eq_of_numberEqual hleft
        rcases equal_cases hbc with rfl | hright | hshape
        · exact .inl hab
        · obtain ⟨y', z, -, hz, -⟩ := units_eq_of_numberEqual hright
          rw [equal_numbers hx hz]
          exact numberEqual_or_collides hleft hright
        · cases hshape.float?_eq_none.symm.trans hy
      · rcases equal_cases hbc with rfl | hright | hshape'
        · exact .inl hab
        · obtain ⟨y, z, hy, -, -⟩ := units_eq_of_numberEqual hright
          cases hshape.symm.float?_eq_none.symm.trans hy
        · rw [equal_iff_parts hshape ha hb] at hab
          rw [equal_iff_parts hshape' hb hc] at hbc
          -- Either the parts are equal at every place, or they collide at one of them.
          by_cases hcollides : Collides a c
          · exact .inr hcollides
          · refine .inl ((equal_iff_parts (hshape.trans hshape') ha hc).mpr fun place => ?_)
            have hplace := (hab place).or_collides (hbc place)
              fun left middle right hleft hmiddle hright => by
                have hpart : Part left a := ⟨place, hleft⟩
                have hpart' : Part middle b := ⟨place, hmiddle⟩
                have hpart'' : Part right c := ⟨place, hright⟩
                exact ih left hpart (hpart.bindsOnce ha) (hpart'.bindsOnce hb)
                  (hpart''.bindsOnce hc)
            rcases hplace with hfound | ⟨left, right, hleft, hright, hparts⟩
            · exact hfound
            · exact absurd (.parts place hleft hright hparts) hcollides

/-- Equality is an equivalence of values without large integers. Every value is equal to itself, and
two values are equal in either order. Two values that are equal to a third one are equal, except
those with different integers at one place that are the same number after rounding; these have an
integer beyond 53 bits. -/
theorem equality_laws (ha : a.BindsOnce) (hb : b.BindsOnce) (hc : c.BindsOnce) :
    equal a a = true ∧ equal a b = equal b a ∧
      (equal a b = true → equal b c = true → (equal a c = true ↔ ¬ Collides a c)) ∧
      (Collides a c → ∃ i : Int, Relation.ReflTransGen Part (int i) a ∧ 2 ^ 53 ≤ i.natAbs) := by
  refine ⟨equal_refl ha, equal_comm ha hb, ?_, Collides.large⟩
  intro hab hbc
  constructor
  · intro hac hcollides
    exact hcollides.not_equal ha hc hac
  · exact (equal_or_collides ha hb hc hab hbc).resolve_right

/-- Two neighbouring integers are equal to one floating point number. -/
theorem neighbours_share_number :
    let above : Value := int (2 ^ 53 + 1)
    let rounded : Value := float (Binary64.ofInt (2 ^ 53))
    let below : Value := int (2 ^ 53)
    equal above rounded = true ∧ equal rounded below = true ∧ equal above below = false := by
  intro above rounded below
  have hleft : equal above rounded = true := by decide +kernel
  have hright : equal rounded below = true := by decide +kernel
  have hcollides : Collides above below :=
    .integers (by decide) (by decide) (by decide) (by decide +kernel)
  obtain ⟨-, -, hlaw, -⟩ :=
    equality_laws (a := above) (b := rounded) (c := below) trivial trivial trivial
  refine ⟨hleft, hright, ?_⟩
  rw [← Bool.not_eq_true]
  exact fun hequal => (hlaw hleft hright).mp hequal hcollides

end SchemaGuard.Value
