import SchemaGuard.Eval.Operators
import SchemaGuard.Proofs.Equivalence

/-! # The order of values

Exchanging two values reverses their order, and wherever the order is defined it agrees with
equality. Values that are not above one another link up to a chain, unless rounding comes in between:
a number that is compared after rounding may be equal to two different integers, and then three
values that hold these numbers at one place need not be in line.
-/

namespace SchemaGuard.Value

variable {a b c : Value} {order next : Ordering}

/-! ## Total orders -/

/-- Two steps of a total order make one, which is strict if either of them is. -/
theorem compose_of_transCmp {α : Type} (cmp : α → α → Ordering) [Std.TransCmp cmp] {p q r : α}
    (hpq : cmp p q ≠ .gt) (hqr : cmp q r ≠ .gt) : cmp p r = (cmp p q).then (cmp q r) := by
  cases hfirst : cmp p q with
  | gt => exact absurd hfirst hpq
  | lt => exact Std.TransCmp.lt_of_lt_of_isLE hfirst (Ordering.isLE_iff_ne_gt.mpr hqr)
  | eq => exact Std.TransCmp.congr_left hfirst

theorem textOrder_eq : textOrder = List.compareLex (compareOn Char.toNat) := by
  funext l r
  induction l generalizing r with
  | nil => cases r <;> rfl
  | cons c l ih =>
      cases r with
      | nil => rfl
      | cons d r =>
          rw [textOrder, List.compareLex_cons_cons, ih]
          rfl

instance : Std.LawfulEqCmp (compareOn Char.toNat) where
  eq_of_compare hequal := Char.toNat_inj.mp (Std.compare_eq_iff_eq.mp hequal)

theorem textOrder_swap (s t : List Char) : textOrder t s = (textOrder s t).swap := by
  rw [textOrder_eq]
  exact Std.OrientedCmp.eq_swap

theorem textOrder_eq_iff {s t : List Char} : textOrder s t = .eq ↔ s = t := by
  rw [textOrder_eq]
  exact Std.LawfulEqCmp.compare_eq_iff_eq

theorem boolOrder_eq_iff {p q : Bool} : compare p.toNat q.toNat = .eq ↔ p = q := by
  cases p <;> cases q <;> decide

/-! ## Numbers -/

variable {x y z : Binary64}

theorem order?_numbers (hx : a.float? = some x) (hy : b.float? = some y) :
    a.order? b = numberOrder? a b := by
  cases a <;> cases hx <;> cases b <;> cases hy <;> rfl

/-- Two numbers are compared as integers, or after rounding. -/
theorem numberOrder?_cases (hx : a.float? = some x) (hy : b.float? = some y) :
    (∃ i j, a.int64? = some i ∧ b.int64? = some j ∧ numberOrder? a b = some (compare i j)) ∨
      (a.int64? = none ∨ b.int64? = none) ∧
        numberOrder? a b = some (compare x.units y.units) := by
  unfold numberOrder?
  cases ha : a.int64? with
  | none =>
      rw [hx, hy]
      exact .inr ⟨.inl rfl, rfl⟩
  | some i =>
      cases hb : b.int64? with
      | none =>
          rw [hx, hy]
          exact .inr ⟨.inr rfl, rfl⟩
      | some j => exact .inl ⟨i, j, rfl, rfl, rfl⟩

theorem numberOrder?_swap (a b : Value) :
    numberOrder? b a = (numberOrder? a b).map Ordering.swap := by
  unfold numberOrder?
  cases a.int64? <;> cases b.int64? <;> cases a.float? <;> cases b.float? <;>
    simp [Binary64.order, ← Std.OrientedOrd.eq_swap]

theorem numberOrder?_eq_iff : numberOrder? a b = some .eq ↔ numberEqual a b = true := by
  unfold numberOrder? numberEqual
  cases a.int64? <;> cases b.int64? <;> cases a.float? <;> cases b.float? <;>
    simp [Binary64.order, Binary64.equal]

/-- Numbers that are apart after rounding have been so before. -/
theorem numberOrder?_of_units_ne (hx : a.float? = some x) (hy : b.float? = some y)
    (hunits : x.units ≠ y.units) : numberOrder? a b = some (compare x.units y.units) := by
  rcases numberOrder?_cases hx hy with ⟨i, j, hi, hj, horder⟩ | ⟨-, horder⟩
  · cases eq_int_of_int64? hi
    cases eq_int_of_int64? hj
    cases hx
    cases hy
    rw [horder]
    rcases Int.lt_or_gt_of_ne hunits with hlt | hgt
    · have hij : i < j := by
        by_contra hle
        exact absurd (Binary64.units_ofInt_mono (Int.not_lt.mp hle)) (Int.not_le.mpr hlt)
      rw [compare_lt_iff_lt.mpr hlt, compare_lt_iff_lt.mpr hij]
    · have hji : j < i := by
        by_contra hle
        exact absurd (Binary64.units_ofInt_mono (Int.not_lt.mp hle)) (Int.not_le.mpr hgt)
      rw [compare_gt_iff_gt.mpr hgt, compare_gt_iff_gt.mpr hji]
  · exact horder

/-- Rounding keeps the order of numbers. -/
theorem units_le_of_numberOrder? (hx : a.float? = some x) (hy : b.float? = some y)
    (horder : numberOrder? a b = some order) (hle : order ≠ .gt) : x.units ≤ y.units := by
  by_contra hlt
  have hgt : y.units < x.units := Int.not_le.mp hlt
  rw [numberOrder?_of_units_ne hx hy hgt.ne', compare_gt_iff_gt.mpr hgt] at horder
  cases horder
  exact hle rfl

theorem numberOrder?_eq_of_units (hx : a.float? = some x) (hy : b.float? = some y)
    (hrounded : a.int64? = none ∨ b.int64? = none) (hunits : x.units = y.units) :
    numberOrder? a b = some .eq := by
  rcases numberOrder?_cases hx hy with ⟨i, j, hi, hj, -⟩ | ⟨-, horder⟩
  · rcases hrounded with hnone | hnone
    · cases hnone.symm.trans hi
    · cases hnone.symm.trans hj
  · rw [horder, Std.compare_eq_iff_eq.mpr hunits]

/-! ## Lists -/

theorem orderList?_cons_eq_some {l r : List Value} :
    orderList? (a :: l) (b :: r) = some order ↔
      a.order? b = some .eq ∧ orderList? l r = some order ∨
        a.order? b = some order ∧ order ≠ .eq := by
  rw [orderList?]
  cases a.order? b with
  | none => simp
  | some first => cases first <;> simp +contextual [eq_comm]

theorem orderList?_swap {l : List Value}
    (hitems : ∀ a ∈ l, ∀ b, order? b a = (order? a b).map Ordering.swap) (r : List Value) :
    orderList? r l = (orderList? l r).map Ordering.swap := by
  induction l generalizing r with
  | nil => cases r <;> rfl
  | cons a l ih =>
      cases r with
      | nil => rfl
      | cons b r =>
          rw [List.forall_mem_cons] at hitems
          rw [orderList?, orderList?, hitems.1, ih hitems.2]
          cases order? a b with
          | none => rfl
          | some first => cases first <;> rfl

theorem orderList?_eq_iff {l r : List Value}
    (hitems : ∀ a ∈ l, ∀ b order, order? a b = some order → (order = .eq ↔ equal a b = true))
    (horder : orderList? l r = some order) : order = .eq ↔ equalList l r = true := by
  induction l generalizing r with
  | nil => cases r <;> cases horder <;> simp [equalList]
  | cons a l ih =>
      cases r with
      | nil =>
          cases horder
          simp [equalList]
      | cons b r =>
          rw [List.forall_mem_cons] at hitems
          rw [equalList, Bool.and_eq_true]
          rcases orderList?_cons_eq_some.mp horder with ⟨hfirst, hrest⟩ | ⟨hfirst, hunequal⟩
          · have hequal := (hitems.1 b _ hfirst).mp rfl
            rw [ih hitems.2 hrest, eq_true hequal, true_and]
          · have hequal := hitems.1 b _ hfirst
            exact iff_of_false hunequal fun hboth => hunequal (hequal.mpr hboth.1)

theorem part_of_mem {item : Value} {items : List Value} (hitem : item ∈ items) :
    Part item (list items) := by
  obtain ⟨i, hi⟩ := List.mem_iff_getElem?.mp hitem
  exact ⟨.index i, hi⟩

/-! ## Exchange and equality -/

/-- Exchanging two values reverses their order. -/
theorem order?_swap (a b : Value) : b.order? a = (a.order? b).map Ordering.swap := by
  induction a using part_induction generalizing b with
  | step a ih =>
      cases a with
      | null | dict => cases b <;> rfl
      | bool p =>
          cases b with
          | bool q => exact congrArg some Std.OrientedOrd.eq_swap
          | _ => rfl
      | int | float =>
          cases b with
          | int | float =>
              rw [order?, order?]
              exact numberOrder?_swap _ _
          | _ => rfl
      | str s =>
          cases b with
          | str t => exact congrArg some (textOrder_swap _ _)
          | _ => rfl
      | list l =>
          cases b with
          | list r => exact orderList?_swap (fun item hitem => ih item (part_of_mem hitem)) r
          | _ => rfl

/-- Values that have an order are equal if neither comes first. -/
theorem order?_eq_iff (horder : a.order? b = some order) :
    order = .eq ↔ a.equal b = true := by
  induction a using part_induction generalizing b order with
  | step a ih =>
      cases a with
      | null | dict => cases b <;> cases horder
      | bool p =>
          cases b <;> cases horder
          rw [boolOrder_eq_iff, equal, beq_iff_eq]
      | str s =>
          cases b <;> cases horder
          rw [textOrder_eq_iff, equal, beq_iff_eq, String.toList_inj]
      | int | float =>
          cases b with
          | int | float =>
              rw [equal, ← numberOrder?_eq_iff, ← order?, horder, Option.some_inj]
          | _ => cases horder
      | list l =>
          cases b with
          | list r => exact orderList?_eq_iff (fun item hitem _ _ => ih item (part_of_mem hitem)) horder
          | _ => cases horder

theorem compare_of_order? (horder : a.order? b = some order) :
    Eval.compare .less a b = .ok order.isLT ∧ Eval.compare .greater a b = .ok order.isGT ∧
      Eval.compare .lessOrEqual a b = .ok order.isLE := by
  simp [Eval.compare, Eval.ordered, horder]

theorem order?_of_less {less : Bool} (hless : Eval.compare .less a b = .ok less) :
    ∃ order, a.order? b = some order ∧ less = order.isLT := by
  unfold Eval.compare Eval.ordered at hless
  cases horder : a.order? b with
  | none =>
      rw [horder] at hless
      cases hless
  | some order =>
      rw [horder] at hless
      cases hless
      exact ⟨order, rfl, rfl⟩

/-- Order and equality agree. Exchanging two values reverses their order, and two values that have
one are equal if neither comes first. So wherever `<` has an answer, exactly one of `<`, `==` and `>`
holds, and `<=` is the negation of `>`. -/
theorem order_agrees_with_equality (a b : Value) :
    b.order? a = (a.order? b).map Ordering.swap ∧
      (∀ order, a.order? b = some order → (order = .eq ↔ a.equal b = true)) ∧
      ∀ less, Eval.compare .less a b = .ok less → ∃ equal greater,
        Eval.compare .equal a b = .ok equal ∧ Eval.compare .greater a b = .ok greater ∧
          [less, equal, greater].count true = 1 ∧
          Eval.compare .lessOrEqual a b = .ok (!greater) := by
  refine ⟨order?_swap a b, fun order => order?_eq_iff, ?_⟩
  intro less hless
  obtain ⟨order, horder, rfl⟩ := order?_of_less hless
  obtain ⟨-, hgreater, hle⟩ := compare_of_order? horder
  refine ⟨a.equal b, order.isGT, rfl, hgreater, ?_, ?_⟩
  · have hequal : a.equal b = order.isEq := by
      rw [Bool.eq_iff_iff, ← order?_eq_iff horder, Ordering.isEq_iff_eq_eq]
    rw [hequal]
    cases order <;> decide
  · rw [hle]
    cases order <;> rfl

/-! ## Chains -/

/-- The order puts the first value before the second, or takes them for equal. -/
def NotAbove (a b : Value) : Prop :=
  ∃ order, a.order? b = some order ∧ order ≠ .gt

/-- A number that is compared after rounding: a floating point number, or an integer beyond 64
bits. -/
def ComparedRounded (a : Value) : Prop :=
  a.int64? = none ∧ a.float?.isSome = true

/-- At the first place where three values differ, the first one has a number that is compared after
rounding, and the others have two integers that are both equal to it. -/
inductive Blurs : Value → Value → Value → Prop
  | integers {number : Value} {i j : Int} : number.ComparedRounded →
      Int64Range.holds i = true → Int64Range.holds j = true → i ≠ j →
      number.order? (int i) = some .eq → number.order? (int j) = some .eq →
      Blurs number (int i) (int j)
  | first {a b c : Value} (l m r : List Value) : Blurs a b c →
      Blurs (list (a :: l)) (list (b :: m)) (list (c :: r))
  | later {a b c : Value} {l m r : List Value} : a.order? b = some .eq → a.order? c = some .eq →
      b.order? c = some .eq → Blurs (list l) (list m) (list r) →
      Blurs (list (a :: l)) (list (b :: m)) (list (c :: r))

/-- One of three values blurs the other two. -/
def Blurred (a b c : Value) : Prop :=
  Blurs a b c ∨ Blurs b a c ∨ Blurs c a b

theorem order?_eq_symm (hequal : a.order? b = some .eq) : b.order? a = some .eq := by
  rw [order?_swap, hequal]
  rfl

theorem Blurred.first (hblurred : Blurred a b c) (l m r : List Value) :
    Blurred (list (a :: l)) (list (b :: m)) (list (c :: r)) := by
  rcases hblurred with ha | hb | hc
  · exact .inl (.first l m r ha)
  · exact .inr (.inl (.first m l r hb))
  · exact .inr (.inr (.first r l m hc))

theorem Blurred.later {l m r : List Value} (hab : a.order? b = some .eq)
    (hbc : b.order? c = some .eq) (hac : a.order? c = some .eq)
    (hblurred : Blurred (list l) (list m) (list r)) :
    Blurred (list (a :: l)) (list (b :: m)) (list (c :: r)) := by
  rcases hblurred with ha | hb | hc
  · exact .inl (.later hab hac hbc ha)
  · exact .inr (.inl (.later (order?_eq_symm hab) hbc hac hb))
  · exact .inr (.inr (.later (order?_eq_symm hac) (order?_eq_symm hbc) hab hc))

/-- Only integers are told apart by more than their rounding. -/
theorem blurs_of_unequal {number : Value} (hnumber : number.ComparedRounded)
    (hx : a.float? = some x) (hy : b.float? = some y) (ha : number.order? a = some .eq)
    (hb : number.order? b = some .eq) (hunits : x.units = y.units)
    (hab : a.order? b ≠ some .eq) : Blurs number a b := by
  rw [order?_numbers hx hy] at hab
  rcases numberOrder?_cases hx hy with ⟨i, j, hi, hj, horder⟩ | ⟨hrounded, -⟩
  · obtain ⟨rfl, hirange⟩ := int64?_eq_some hi
    obtain ⟨rfl, hjrange⟩ := int64?_eq_some hj
    refine .integers hnumber hirange hjrange ?_ ha hb
    rintro rfl
    rw [horder, Std.compare_self] at hab
    exact hab rfl
  · exact absurd (numberOrder?_eq_of_units hx hy hrounded hunits) hab

theorem units_eq_of_order? (hx : a.float? = some x) (hy : b.float? = some y)
    (hequal : a.order? b = some .eq) : x.units = y.units := by
  rw [order?_numbers hx hy, numberOrder?_eq_iff] at hequal
  obtain ⟨x', y', hx', hy', hunits⟩ := units_eq_of_numberEqual hequal
  cases hx.symm.trans hx'
  cases hy.symm.trans hy'
  exact hunits

/-- Numbers that are one number after rounding link up, unless one of them blurs the others. -/
theorem compose_of_units_eq (hx : a.float? = some x) (hy : b.float? = some y)
    (hz : c.float? = some z) (hxy : x.units = y.units) (hyz : y.units = z.units)
    (hab : a.order? b = some order) (hbc : b.order? c = some next) (hle : order ≠ .gt)
    (hle' : next ≠ .gt) : a.order? c = some (order.then next) ∨ Blurred a b c := by
  have hac_units := hxy.trans hyz
  have hequal : ∀ {v w : Value} {p q : Binary64}, v.float? = some p → w.float? = some q →
      p.units = q.units → v.int64? = none ∨ w.int64? = none → v.order? w = some .eq := by
    intro v w p q hp hq hunits hrounded
    rw [order?_numbers hp hq, numberOrder?_eq_of_units hp hq hrounded hunits]
  have hrounded : ∀ {v : Value} {p : Binary64}, v.float? = some p → v.int64? = none →
      v.ComparedRounded := fun hp hnone => ⟨hnone, Option.isSome_of_eq_some hp⟩
  by_cases ha : a.int64? = none
  · have hab' := hequal hx hy hxy (.inl ha)
    have hac := hequal hx hz hac_units (.inl ha)
    cases hab.symm.trans hab'
    by_cases hnext : b.order? c = some .eq
    · cases hbc.symm.trans hnext
      exact .inl hac
    · exact .inr (.inl (blurs_of_unequal (hrounded hx ha) hy hz hab' hac hyz hnext))
  by_cases hc : c.int64? = none
  · have hcb := hequal hz hy hyz.symm (.inl hc)
    have hca := hequal hz hx hac_units.symm (.inl hc)
    cases hbc.symm.trans (order?_eq_symm hcb)
    by_cases horder : a.order? b = some .eq
    · cases hab.symm.trans horder
      exact .inl (order?_eq_symm hca)
    · exact .inr (.inr (.inr (blurs_of_unequal (hrounded hz hc) hx hy hca hcb hxy horder)))
  by_cases hb : b.int64? = none
  · have hba := hequal hy hx hxy.symm (.inl hb)
    have hbc' := hequal hy hz hyz (.inl hb)
    cases hab.symm.trans (order?_eq_symm hba)
    cases hbc.symm.trans hbc'
    by_cases hac : a.order? c = some .eq
    · exact .inl hac
    · exact .inr (.inr (.inl (blurs_of_unequal (hrounded hy hb) hx hz hba hbc' hac_units hac)))
  · -- Three integers are compared as they are.
    left
    obtain ⟨i, hi⟩ := Option.ne_none_iff_exists'.mp ha
    obtain ⟨j, hj⟩ := Option.ne_none_iff_exists'.mp hb
    obtain ⟨k, hk⟩ := Option.ne_none_iff_exists'.mp hc
    rw [order?_numbers hx hy, numberOrder?, hi, hj] at hab
    rw [order?_numbers hy hz, numberOrder?, hj, hk] at hbc
    rw [order?_numbers hx hz, numberOrder?, hi, hk]
    cases hab
    cases hbc
    exact congrArg some (compose_of_transCmp compare hle hle')

theorem compose_numbers (hx : a.float? = some x) (hy : b.float? = some y) (hz : c.float? = some z)
    (hab : a.order? b = some order) (hbc : b.order? c = some next) (hle : order ≠ .gt)
    (hle' : next ≠ .gt) : a.order? c = some (order.then next) ∨ Blurred a b c := by
  have hxy : x.units ≤ y.units :=
    units_le_of_numberOrder? hx hy ((order?_numbers hx hy).symm.trans hab) hle
  have hyz : y.units ≤ z.units :=
    units_le_of_numberOrder? hy hz ((order?_numbers hy hz).symm.trans hbc) hle'
  rcases Int.lt_or_eq_of_le (Int.le_trans hxy hyz) with hlt | heq
  · left
    have hac : a.order? c = some .lt := by
      rw [order?_numbers hx hz, numberOrder?_of_units_ne hx hz hlt.ne, compare_lt_iff_lt.mpr hlt]
    have hstrict : order.then next = .lt := by
      cases order with
      | gt => exact absurd rfl hle
      | lt => rfl
      | eq =>
          cases next with
          | gt => exact absurd rfl hle'
          | lt => rfl
          | eq =>
              have hunits := (units_eq_of_order? hx hy hab).trans (units_eq_of_order? hy hz hbc)
              exact absurd hunits hlt.ne
    rw [hac, hstrict]
  · have hxy' : x.units = y.units := by omega
    have hyz' : y.units = z.units := by omega
    exact compose_of_units_eq hx hy hz hxy' hyz' hab hbc hle hle'

theorem compose_lists {l m r : List Value}
    (hitems : ∀ a ∈ l, ∀ b c order next, a.order? b = some order → b.order? c = some next →
      order ≠ .gt → next ≠ .gt → a.order? c = some (order.then next) ∨ Blurred a b c)
    (hlm : orderList? l m = some order) (hmr : orderList? m r = some next) (hle : order ≠ .gt)
    (hle' : next ≠ .gt) :
    orderList? l r = some (order.then next) ∨ Blurred (list l) (list m) (list r) := by
  induction l generalizing m r order next with
  | nil =>
      left
      cases m with
      | nil =>
          cases hlm
          exact hmr
      | cons b m =>
          cases hlm
          cases r with
          | nil =>
              cases hmr
              exact absurd rfl hle'
          | cons c r => rfl
  | cons a l ih =>
      cases m with
      | nil =>
          cases hlm
          exact absurd rfl hle
      | cons b m =>
          cases r with
          | nil =>
              cases hmr
              exact absurd rfl hle'
          | cons c r =>
              rw [List.forall_mem_cons] at hitems
              rw [orderList?_cons_eq_some] at hlm hmr ⊢
              rcases hlm with ⟨hab, hlm⟩ | ⟨hab, hne⟩
              · rcases hmr with ⟨hbc, hmr⟩ | ⟨hbc, hne'⟩
                · -- All three lists go on alike.
                  rcases hitems.1 b c _ _ hab hbc (by decide) (by decide) with hac | hblurred
                  · rcases ih hitems.2 hlm hmr hle hle' with hrest | hblurred
                    · exact .inl (.inl ⟨hac, hrest⟩)
                    · exact .inr (hblurred.later hab hbc hac)
                  · exact .inr (hblurred.first l m r)
                · rcases hitems.1 b c _ _ hab hbc (by decide) hle' with hac | hblurred
                  · have hlt : next = .lt := by cases next <;> simp_all
                    subst hlt
                    have hstrict : order.then .lt = .lt := by cases order <;> simp_all
                    rw [hstrict]
                    exact .inl (.inr ⟨hac, hne'⟩)
                  · exact .inr (hblurred.first l m r)
              · have hlt : order = .lt := by cases order <;> simp_all
                subst hlt
                have hfirst : ∃ first, b.order? c = some first ∧ first ≠ .gt := by
                  rcases hmr with ⟨hbc, -⟩ | ⟨hbc, -⟩
                  · exact ⟨_, hbc, by decide⟩
                  · exact ⟨_, hbc, hle'⟩
                obtain ⟨first, hbc, hfirst⟩ := hfirst
                rcases hitems.1 b c _ _ hab hbc hle hfirst with hac | hblurred
                · exact .inl (.inr ⟨hac, hne⟩)
                · exact .inr (hblurred.first l m r)

theorem order?_list_eq_some {l : List Value} (horder : (list l).order? b = some order) :
    ∃ r, b = list r ∧ orderList? l r = some order := by
  cases b with
  | list r => exact ⟨r, rfl, horder⟩
  | _ => cases horder

theorem exists_float?_of_order? (hx : a.float? = some x) (horder : a.order? b = some order) :
    ∃ y, b.float? = some y := by
  cases a <;> cases hx <;> cases b <;> first | exact ⟨_, rfl⟩ | cases horder

/-- Two steps make one, which is strict if either of them is, unless one of the values blurs the
others. -/
theorem order?_compose (hab : a.order? b = some order) (hbc : b.order? c = some next)
    (hle : order ≠ .gt) (hle' : next ≠ .gt) :
    a.order? c = some (order.then next) ∨ Blurred a b c := by
  induction a using part_induction generalizing b c order next with
  | step a ih =>
      cases a with
      | null | dict => cases b <;> cases hab
      | bool p =>
          cases b <;> cases hab
          cases c <;> cases hbc
          exact .inl (congrArg some (compose_of_transCmp (compareOn Bool.toNat) hle hle'))
      | str s =>
          cases b <;> cases hab
          cases c <;> cases hbc
          rw [textOrder_eq] at hle hle' ⊢
          rw [order?, textOrder_eq]
          exact .inl (congrArg some (compose_of_transCmp _ hle hle'))
      | int | float =>
          obtain ⟨y, hy⟩ := exists_float?_of_order? rfl hab
          obtain ⟨z, hz⟩ := exists_float?_of_order? hy hbc
          exact compose_numbers rfl hy hz hab hbc hle hle'
      | list l =>
          obtain ⟨m, rfl, hlm⟩ := order?_list_eq_some hab
          obtain ⟨r, rfl, hmr⟩ := order?_list_eq_some hbc
          refine compose_lists ?_ hlm hmr hle hle'
          intro item hitem b c order next
          exact ih item (part_of_mem hitem)

/-- In a class of values that are chained, a value that is not above one that is not above a third
one is not above the third one. -/
def Chained (S : Value → Prop) : Prop :=
  ∀ a b c, S a → S b → S c → NotAbove a b → NotAbove b c → NotAbove a c

/-- Values are chained where none of them blurs two others. -/
theorem exists_blurs {S : Value → Prop} (hbroken : ¬ Chained S) :
    ∃ number a b, S number ∧ S a ∧ S b ∧ Blurs number a b := by
  by_contra hnone
  apply hbroken
  rintro a b c ha hb hc ⟨order, hab, hle⟩ ⟨next, hbc, hle'⟩
  rcases order?_compose hab hbc hle hle' with hac | hblurs | hblurs | hblurs
  · refine ⟨_, hac, ?_⟩
    cases order <;> cases next <;> simp_all
  · exact absurd ⟨a, b, c, ha, hb, hc, hblurs⟩ hnone
  · exact absurd ⟨b, a, c, hb, ha, hc, hblurs⟩ hnone
  · exact absurd ⟨c, a, b, hc, ha, hb, hblurs⟩ hnone

/-- Values that are blurred have an order all the same, and are not equal. -/
theorem Blurs.order?_ne {number : Value} (hblurs : Blurs number a b) :
    ∃ order, a.order? b = some order ∧ order ≠ .eq := by
  induction hblurs with
  | @integers number i j _ hi hj hne _ _ =>
      refine ⟨compare i j, ?_, Std.compare_eq_iff_eq.not.mpr hne⟩
      rw [order?, numberOrder?, int64?_int hi, int64?_int hj]
  | first l m r _ ih =>
      obtain ⟨order, horder, hne⟩ := ih
      exact ⟨order, orderList?_cons_eq_some.mpr (.inr ⟨horder, hne⟩), hne⟩
  | later _ _ hequal _ ih =>
      obtain ⟨order, horder, hne⟩ := ih
      exact ⟨order, orderList?_cons_eq_some.mpr (.inl ⟨hequal, horder⟩), hne⟩

theorem within_cons {part : Value} {items : List Value}
    (hwithin : Relation.ReflTransGen Part part (list items)) (hpart : part ≠ list items)
    (item : Value) : Relation.ReflTransGen Part part (list (item :: items)) := by
  rcases hwithin.cases_tail with heq | ⟨inner, hinner, hlast⟩
  · exact absurd heq.symm hpart
  · rcases hlast.cases with ⟨_, heq, hmem⟩ | ⟨_, _, heq, -⟩
    · cases heq
      exact hinner.tail (part_of_mem (List.mem_cons_of_mem item hmem))
    · cases heq

/-- Only a number that is compared after rounding blurs other values, and only integers beyond 53
bits are blurred. -/
theorem Blurs.parts {number : Value} (hblurs : Blurs number a b) :
    (∃ part, Relation.ReflTransGen Part part number ∧ part.ComparedRounded) ∧
      ∃ i : Int, Relation.ReflTransGen Part (int i) a ∧ 2 ^ 53 ≤ i.natAbs := by
  induction hblurs with
  | @integers number i j hnumber _ _ hne hi hj =>
      refine ⟨⟨number, .refl, hnumber⟩, i, .refl, Binary64.natAbs_of_units_eq hne ?_⟩
      obtain ⟨x, hx⟩ := Option.isSome_iff_exists.mp hnumber.2
      exact (units_eq_of_order? hx rfl hi).symm.trans (units_eq_of_order? hx rfl hj)
  | first l m r _ ih =>
      obtain ⟨⟨part, hpart, hrounded⟩, i, hi, hlarge⟩ := ih
      exact ⟨⟨part, hpart.tail (part_of_mem List.mem_cons_self), hrounded⟩, i,
        hi.tail (part_of_mem List.mem_cons_self), hlarge⟩
  | later _ _ _ _ ih =>
      obtain ⟨⟨part, hpart, hrounded⟩, i, hi, hlarge⟩ := ih
      refine ⟨⟨part, within_cons hpart ?_ _, hrounded⟩, i, within_cons hi (by simp) _, hlarge⟩
      rintro rfl
      cases hrounded.2

end SchemaGuard.Value
