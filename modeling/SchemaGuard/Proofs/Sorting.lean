import SchemaGuard.Function.Collections
import SchemaGuard.Proofs.Order

/-! # Sorting and extremes

A sort asks for a total order, and the comparison that values are sorted by is one just if items without
an order stand in for one another and the others are chained. Then every stable sort gives the same
list. Where the items are chained, sorting, the least and the greatest item go by one order.
-/

namespace SchemaGuard.Value

/-- The comparison that values are sorted by: values without an order count as equal. -/
def sortOrder (a b : Value) : Ordering :=
  (a.order? b).getD .eq

/-- What a comparison must be for the items that are sorted by it. A sort may break off without a
result where it is not. -/
structure TotalOrderOn (cmp : Value → Value → Ordering) (items : List Value) : Prop where
  swap : ∀ a ∈ items, ∀ b ∈ items, cmp b a = (cmp a b).swap
  trans : ∀ a ∈ items, ∀ b ∈ items, ∀ c ∈ items, ∀ order,
    cmp a b = order → cmp b c = order → cmp a c = order

/-- What a stable sort gives for a total order: the items in ascending order, those that count as
equal in the order in which they were. -/
structure StableSort (cmp : Value → Value → Ordering) (items result : List Value) : Prop where
  perm : result.Perm items
  ascending : result.Pairwise fun a b => cmp a b ≠ .gt
  stable : ∀ key ∈ items, result.filter (fun item => cmp key item = .eq) =
    items.filter fun item => cmp key item = .eq

/-- Items that have no order are compared alike with every item. -/
def UnorderedAlike (items : List Value) : Prop :=
  ∀ a ∈ items, ∀ b ∈ items, a.order? b = none → ∀ c ∈ items, sortOrder a c = sortOrder b c

/-- Two values have an order. -/
def Comparable (a b : Value) : Prop :=
  (a.order? b).isSome = true

variable {S : Value → Prop} {a b c item : Value} {items sorted result : List Value}

/-! ## Total orders -/

theorem sortOrder_swap (a b : Value) : sortOrder b a = (sortOrder a b).swap := by
  unfold sortOrder
  rw [order?_swap]
  cases a.order? b <;> rfl

theorem sortOrder_of_some {order : Ordering} (horder : a.order? b = some order) :
    sortOrder a b = order := by
  rw [sortOrder, horder, Option.getD_some]

theorem sortOrder_of_none (hnone : a.order? b = none) : sortOrder a b = .eq := by
  rw [sortOrder, hnone, Option.getD_none]

theorem NotAbove.sortOrder_ne (hab : NotAbove a b) : sortOrder a b ≠ .gt := by
  obtain ⟨order, horder, hle⟩ := hab
  rw [sortOrder_of_some horder]
  exact hle

theorem NotAbove.comparable (hab : NotAbove a b) : Comparable a b := by
  obtain ⟨order, horder, -⟩ := hab
  exact Option.isSome_of_eq_some horder

theorem Comparable.symm (hab : Comparable a b) : Comparable b a := by
  unfold Comparable at *
  rw [order?_swap, Option.isSome_map]
  exact hab

namespace TotalOrderOn

variable {cmp : Value → Value → Ordering}

theorem self (htotal : TotalOrderOn cmp items) (ha : a ∈ items) : cmp a a = .eq := by
  have hswap := htotal.swap a ha a ha
  cases horder : cmp a a with
  | eq => rfl
  | lt | gt =>
      rw [horder] at hswap
      cases hswap

theorem flip (htotal : TotalOrderOn cmp items) (ha : a ∈ items) (hb : b ∈ items) {order : Ordering}
    (hab : cmp a b = order) : cmp b a = order.swap := by
  rw [htotal.swap a ha b hb, hab]

/-- Items that count as equal are compared alike with every item. -/
theorem congr (htotal : TotalOrderOn cmp items) (ha : a ∈ items) (hb : b ∈ items) (hc : c ∈ items)
    (hab : cmp a b = .eq) : cmp a c = cmp b c := by
  have hba := htotal.flip ha hb hab
  cases hbc : cmp b c with
  | eq => exact htotal.trans a ha b hb c hc .eq hab hbc
  | lt =>
      cases hac : cmp a c with
      | lt => rfl
      | eq =>
          have := htotal.trans b hb a ha c hc .eq hba hac
          rw [hbc] at this
          cases this
      | gt =>
          have := htotal.trans b hb c hc a ha .lt hbc (htotal.flip ha hc hac)
          rw [hba] at this
          cases this
  | gt =>
      cases hac : cmp a c with
      | gt => rfl
      | eq =>
          have := htotal.trans b hb a ha c hc .eq hba hac
          rw [hbc] at this
          cases this
      | lt =>
          have := htotal.trans b hb c hc a ha .gt hbc (htotal.flip ha hc hac)
          rw [hba] at this
          cases this

theorem le_trans (htotal : TotalOrderOn cmp items) (ha : a ∈ items) (hb : b ∈ items)
    (hc : c ∈ items) (hab : cmp a b ≠ .gt) (hbc : cmp b c ≠ .gt) : cmp a c ≠ .gt := by
  cases hfirst : cmp a b with
  | gt => exact absurd hfirst hab
  | eq =>
      rw [htotal.congr ha hb hc hfirst]
      exact hbc
  | lt =>
      cases hnext : cmp b c with
      | gt => exact absurd hnext hbc
      | lt =>
          rw [htotal.trans a ha b hb c hc .lt hfirst hnext]
          decide
      | eq =>
          have hca := htotal.congr hb hc ha hnext
          rw [htotal.flip ha hb hfirst] at hca
          rw [htotal.flip hc ha hca.symm]
          decide

/-- Steps that do not go down are enough for a total order, as those that do not go up are such
steps in reverse. -/
theorem of_le (hswap : ∀ a ∈ items, ∀ b ∈ items, cmp b a = (cmp a b).swap)
    (hle : ∀ a ∈ items, ∀ b ∈ items, ∀ c ∈ items, cmp a b ≠ .gt → cmp b c ≠ .gt → cmp a c ≠ .gt) :
    TotalOrderOn cmp items := by
  have hlt : ∀ a ∈ items, ∀ b ∈ items, ∀ c ∈ items,
      cmp a b = .lt → cmp b c = .lt → cmp a c = .lt := by
    intro a ha b hb c hc hab hbc
    by_contra hac
    -- Otherwise the way back from the last value leads over the first one to the second.
    have hca : cmp c a ≠ .gt := by
      rw [hswap a ha c hc]
      cases horder : cmp a c with
      | lt => exact absurd horder hac
      | eq | gt => decide
    have hcb := hle c hc a ha b hb hca (by simp [hab])
    rw [hswap b hb c hc, hbc] at hcb
    exact hcb rfl
  refine ⟨hswap, ?_⟩
  intro a ha b hb c hc order hab hbc
  cases order with
  | lt => exact hlt a ha b hb c hc hab hbc
  | eq =>
      have hcb : cmp c b = .eq := by rw [hswap b hb c hc, hbc, Ordering.swap_eq]
      have hba : cmp b a = .eq := by rw [hswap a ha b hb, hab, Ordering.swap_eq]
      have hac := hle a ha b hb c hc (by simp [hab]) (by simp [hbc])
      have hca := hle c hc b hb a ha (by simp [hcb]) (by simp [hba])
      rw [hswap a ha c hc] at hca
      cases horder : cmp a c with
      | eq => rfl
      | lt => exact absurd (by rw [horder, Ordering.swap_lt]) hca
      | gt => exact absurd horder hac
  | gt =>
      have hcb : cmp c b = .lt := by rw [hswap b hb c hc, hbc, Ordering.swap_gt]
      have hba : cmp b a = .lt := by rw [hswap a ha b hb, hab, Ordering.swap_gt]
      rw [hswap c hc a ha, hlt c hc b hb a ha hcb hba, Ordering.swap_lt]

end TotalOrderOn

/-! ## When the comparison is a total order -/

/-- Items that count as equal without having an order are not blurred. -/
theorem chained_of_totalOrder (htotal : TotalOrderOn sortOrder items) : Chained (· ∈ items) := by
  intro a b c ha hb hc hab hbc
  have hle := htotal.le_trans ha hb hc hab.sortOrder_ne hbc.sortOrder_ne
  cases hac : a.order? c with
  | some order => exact ⟨order, hac, sortOrder_of_some hac ▸ hle⟩
  | none =>
      -- All three count as equal, so the outer two have an order after all.
      have hca := sortOrder_of_none (a := c) (b := a) (by rw [order?_swap, hac, Option.map_none])
      obtain ⟨order, hfirst, horder⟩ := hab
      obtain ⟨next, hnext, hnext'⟩ := hbc
      have hcb := htotal.congr hc ha hb hca
      rw [sortOrder_of_some hfirst, htotal.flip hb hc (sortOrder_of_some hnext)] at hcb
      have horder_eq : order = .eq := by
        cases order <;> cases next <;> simp_all
      have hnext_eq : next = .eq := by
        cases order <;> cases next <;> simp_all
      subst horder_eq hnext_eq
      rcases order?_compose hfirst hnext horder hnext' with hac' | hblurs | hblurs | hblurs
      · rw [hac] at hac'
        cases hac'
      · obtain ⟨_, horder, hne⟩ := hblurs.order?_ne
        cases hnext.symm.trans horder
        exact absurd rfl hne
      · obtain ⟨_, horder, -⟩ := hblurs.order?_ne
        cases hac.symm.trans horder
      · obtain ⟨_, horder, hne⟩ := hblurs.order?_ne
        cases hfirst.symm.trans horder
        exact absurd rfl hne

theorem sortOrder_le_trans (halike : UnorderedAlike items) (hchained : Chained (· ∈ items))
    (ha : a ∈ items) (hb : b ∈ items) (hc : c ∈ items) (hab : sortOrder a b ≠ .gt)
    (hbc : sortOrder b c ≠ .gt) : sortOrder a c ≠ .gt := by
  cases hfirst : a.order? b with
  | none =>
      rw [halike a ha b hb hfirst c hc]
      exact hbc
  | some order =>
      cases hnext : b.order? c with
      | none =>
          rw [sortOrder_swap, ← halike b hb c hc hnext a ha, ← sortOrder_swap]
          exact hab
      | some next =>
          have hleft : NotAbove a b := ⟨order, hfirst, sortOrder_of_some hfirst ▸ hab⟩
          have hright : NotAbove b c := ⟨next, hnext, sortOrder_of_some hnext ▸ hbc⟩
          exact (hchained a b c ha hb hc hleft hright).sortOrder_ne

/-- The comparison that values are sorted by is a total order just where items without an order stand
in for one another and the others are chained. -/
theorem totalOrder_iff :
    TotalOrderOn sortOrder items ↔ UnorderedAlike items ∧ Chained (· ∈ items) := by
  constructor
  · intro htotal
    refine ⟨?_, chained_of_totalOrder htotal⟩
    intro a ha b hb hnone c hc
    exact htotal.congr ha hb hc (sortOrder_of_none hnone)
  · intro hitems
    obtain ⟨halike, hchained⟩ := hitems
    refine .of_le (fun a _ b _ => sortOrder_swap a b) ?_
    intro a ha b hb c hc
    exact sortOrder_le_trans halike hchained ha hb hc

/-! ## Stable sorts -/

theorem TotalOrderOn.of_perm {cmp : Value → Value → Ordering} (htotal : TotalOrderOn cmp items)
    (hperm : result.Perm items) : TotalOrderOn cmp result where
  swap a ha b hb := htotal.swap a (hperm.mem_iff.mp ha) b (hperm.mem_iff.mp hb)
  trans a ha b hb c hc :=
    htotal.trans a (hperm.mem_iff.mp ha) b (hperm.mem_iff.mp hb) c (hperm.mem_iff.mp hc)

/-- Two ascending arrangements of the same values are the same list if those that count as equal are
in the same order. -/
theorem eq_of_arrangements {cmp : Value → Value → Ordering} {left right : List Value}
    (htotal : TotalOrderOn cmp left) (hperm : left.Perm right)
    (hleft : left.Pairwise fun a b => cmp a b ≠ .gt)
    (hright : right.Pairwise fun a b => cmp a b ≠ .gt)
    (hstable : ∀ key ∈ left, left.filter (fun item => cmp key item = .eq) =
      right.filter fun item => cmp key item = .eq) : left = right := by
  induction left generalizing right with
  | nil => exact hperm.nil_eq
  | cons a left ih =>
      cases right with
      | nil => cases hperm.symm.nil_eq
      | cons b right =>
          have ha : a ∈ a :: left := List.mem_cons_self
          have hb : b ∈ a :: left := hperm.mem_iff.mpr List.mem_cons_self
          rw [List.pairwise_cons] at hleft hright
          -- The first values are not above each other, so they are the first of one class.
          have hab : cmp a b = .eq := by
            rcases List.mem_cons.mp hb with rfl | hb'
            · exact htotal.self ha
            · rcases List.mem_cons.mp (hperm.mem_iff.mp ha) with rfl | ha'
              · exact htotal.self ha
              · have hle := hleft.1 b hb'
                have hge := hright.1 a ha'
                rw [htotal.swap a ha b hb] at hge
                cases horder : cmp a b <;> simp_all
          have hhead : a = b := by
            have hclass := hstable a ha
            rw [List.filter_cons_of_pos (by simpa using htotal.self ha),
              List.filter_cons_of_pos (by simpa using hab)] at hclass
            exact List.head_eq_of_cons_eq hclass
          subst hhead
          congr 1
          refine ih ?_ hperm.cons_inv hleft.2 hright.2 ?_
          · exact ⟨fun a ha b hb => htotal.swap a (.tail _ ha) b (.tail _ hb),
              fun a ha b hb c hc => htotal.trans a (.tail _ ha) b (.tail _ hb) c (.tail _ hc)⟩
          · intro key hkey
            have hclass := hstable key (.tail _ hkey)
            rw [List.filter_cons, List.filter_cons] at hclass
            split at hclass
            · exact List.tail_eq_of_cons_eq hclass
            · exact hclass

/-- A total order leaves a stable sort no choice. -/
theorem StableSort.unique {cmp : Value → Value → Ordering} {other : List Value}
    (htotal : TotalOrderOn cmp items) (hresult : StableSort cmp items result)
    (hother : StableSort cmp items other) : other = result := by
  refine eq_of_arrangements (htotal.of_perm hother.perm) (hother.perm.trans hresult.perm.symm)
    hother.ascending hresult.ascending ?_
  intro key hkey
  have hkey' := hother.perm.mem_iff.mp hkey
  rw [hother.stable key hkey', hresult.stable key hkey']

/-! ## Insertion -/

/-- The values of a sort so far, given from their end, are in order. -/
def Descending (sorted : List Value) : Prop :=
  sorted.Pairwise fun later earlier => NotAbove earlier later

/-- A value is inserted behind the last one that is not above it. -/
theorem insertBack?_eq_some (hinsert : insertBack? item sorted = some result) :
    ∃ above rest, sorted = above ++ rest ∧ result = above ++ item :: rest ∧
      (∀ x ∈ above, item.order? x = some .lt) ∧ ∀ x ∈ rest.head?, NotAbove x item := by
  induction sorted generalizing result with
  | nil =>
      cases hinsert
      exact ⟨[], [], rfl, rfl, by simp, by simp⟩
  | cons last rest ih =>
      rw [insertBack?] at hinsert
      split at hinsert
      next => cases hinsert
      next hlt =>
        obtain ⟨inner, hinner, rfl⟩ := Option.map_eq_some_iff.mp hinsert
        obtain ⟨above, below, rfl, rfl, habove, hbelow⟩ := ih hinner
        refine ⟨last :: above, below, rfl, rfl, ?_, hbelow⟩
        exact List.forall_mem_cons.mpr ⟨hlt, habove⟩
      next order hne horder =>
        cases hinsert
        refine ⟨[], last :: rest, rfl, rfl, by simp, ?_⟩
        intro x hx
        cases hx
        refine ⟨order.swap, by rw [order?_swap, horder, Option.map_some], ?_⟩
        cases order <;> simp_all

theorem exists_insertBack? (hcomparable : ∀ x ∈ sorted, Comparable item x) :
    ∃ result, insertBack? item sorted = some result := by
  induction sorted with
  | nil => exact ⟨_, rfl⟩
  | cons last rest ih =>
      rw [List.forall_mem_cons] at hcomparable
      obtain ⟨order, horder⟩ := Option.isSome_iff_exists.mp hcomparable.1
      obtain ⟨inner, hinner⟩ := ih hcomparable.2
      rw [insertBack?, horder]
      cases order with
      | lt => exact ⟨last :: inner, by rw [hinner, Option.map_some]⟩
      | eq | gt => exact ⟨_, rfl⟩

theorem insertBack?_perm (hinsert : insertBack? item sorted = some result) :
    result.Perm (item :: sorted) := by
  obtain ⟨above, rest, rfl, rfl, -, -⟩ := insertBack?_eq_some hinsert
  exact List.perm_middle

theorem insertBack?_append_perm (hinsert : insertBack? item sorted = some result)
    (items : List Value) : (result ++ items).Perm (sorted ++ item :: items) :=
  ((insertBack?_perm hinsert).append_right items).trans List.perm_middle.symm

/-- What holds of all values before an insertion holds of them afterwards. -/
theorem forall_mem_insertBack? (hinsert : insertBack? item sorted = some result)
    (hall : ∀ x ∈ sorted ++ item :: items, S x) : ∀ x ∈ result ++ items, S x :=
  fun x hx => hall x ((insertBack?_append_perm hinsert items).mem_iff.mp hx)

/-- Insertion keeps chained values in order. -/
theorem Descending.insertBack? (hchained : Chained S) (hall : ∀ x ∈ sorted ++ item :: items, S x)
    (hdescending : Descending sorted) (hinsert : Value.insertBack? item sorted = some result) :
    Descending result := by
  obtain ⟨above, rest, rfl, rfl, habove, hrest⟩ := insertBack?_eq_some hinsert
  unfold Descending at *
  rw [List.pairwise_append] at hdescending
  obtain ⟨hleft, hright, hacross⟩ := hdescending
  have hbelow : ∀ x ∈ rest, NotAbove x item := by
    cases rest with
    | nil => simp
    | cons last rest =>
        have hlast := hrest last rfl
        rw [List.pairwise_cons] at hright
        rw [List.forall_mem_cons]
        refine ⟨hlast, fun x hx => ?_⟩
        exact hchained x last item (hall x (by simp [hx])) (hall last (by simp))
          (hall item (by simp)) (hright.1 x hx) hlast
  rw [List.pairwise_append, List.pairwise_cons]
  refine ⟨hleft, ⟨hbelow, hright⟩, ?_⟩
  intro x hx y hy
  rcases List.mem_cons.mp hy with rfl | hy
  · exact ⟨.lt, habove x hx, by decide⟩
  · exact hacross x hx y hy

theorem insertAll?_cons_eq_some : insertAll? sorted (item :: items) = some result ↔
    ∃ next, insertBack? item sorted = some next ∧ insertAll? next items = some result := by
  rw [insertAll?]
  cases insertBack? item sorted <;> simp

theorem insertAll?_perm (hsort : insertAll? sorted items = some result) :
    result.Perm (sorted ++ items) := by
  induction items generalizing sorted with
  | nil =>
      cases hsort
      rw [List.append_nil]
      exact List.reverse_perm sorted
  | cons item rest ih =>
      obtain ⟨next, hinsert, hrest⟩ := insertAll?_cons_eq_some.mp hsort
      exact (ih hrest).trans (insertBack?_append_perm hinsert rest)

/-- Chained values are sorted to a list in which every value is not above any later one. -/
theorem insertAll?_ascending (hchained : Chained S) (hall : ∀ x ∈ sorted ++ items, S x)
    (hdescending : Descending sorted) (hsort : insertAll? sorted items = some result) :
    result.Pairwise NotAbove := by
  induction items generalizing sorted with
  | nil =>
      cases hsort
      exact List.pairwise_reverse.mpr hdescending
  | cons item rest ih =>
      obtain ⟨next, hinsert, hrest⟩ := insertAll?_cons_eq_some.mp hsort
      have hnext := hdescending.insertBack? hchained hall hinsert
      exact ih (forall_mem_insertBack? hinsert hall) hnext hrest

theorem exists_insertAll? (hitems : items.Pairwise Comparable)
    (hacross : ∀ item ∈ items, ∀ x ∈ sorted, Comparable item x) :
    ∃ result, insertAll? sorted items = some result := by
  induction items generalizing sorted with
  | nil => exact ⟨_, rfl⟩
  | cons item rest ih =>
      rw [List.pairwise_cons] at hitems
      rw [List.forall_mem_cons] at hacross
      obtain ⟨next, hinsert⟩ := exists_insertBack? hacross.1
      have hnext : ∀ other ∈ rest, ∀ x ∈ next, Comparable other x := by
        intro other hother x hx
        rcases List.mem_cons.mp ((insertBack?_perm hinsert).mem_iff.mp hx) with rfl | hx
        · exact (hitems.1 other hother).symm
        · exact hacross.2 other hother x hx
      obtain ⟨result, hrest⟩ := ih hitems.2 hnext
      exact ⟨result, insertAll?_cons_eq_some.mpr ⟨next, hinsert, hrest⟩⟩

/-- Of the values that count as equal to a given one, insertion keeps the order. -/
theorem insertBack?_filter {all : List Value} {key : Value} (htotal : TotalOrderOn sortOrder all)
    (hkey : key ∈ all) (hitem : item ∈ all) (hsorted : ∀ x ∈ sorted, x ∈ all)
    (hinsert : insertBack? item sorted = some result) :
    result.reverse.filter (fun x => sortOrder key x = .eq) =
      (sorted.reverse ++ [item]).filter fun x => sortOrder key x = .eq := by
  obtain ⟨above, rest, rfl, rfl, habove, -⟩ := insertBack?_eq_some hinsert
  by_cases hclass : sortOrder key item = .eq
  · have hnone : above.reverse.filter (fun x => sortOrder key x = .eq) = [] := by
      rw [List.filter_eq_nil_iff]
      intro x hx hequal
      have hx' : x ∈ above := List.mem_reverse.mp hx
      have hxall : x ∈ all := hsorted x (List.mem_append_left _ hx')
      have hlt := sortOrder_of_some (habove x hx')
      rw [← htotal.congr hkey hitem hxall hclass, of_decide_eq_true hequal] at hlt
      cases hlt
    simp only [List.reverse_append, List.reverse_cons, List.filter_append, hnone, List.append_nil]
  · simp [hclass]

theorem insertAll?_filter {all : List Value} {key : Value} (htotal : TotalOrderOn sortOrder all)
    (hkey : key ∈ all) (hall : ∀ x ∈ sorted ++ items, x ∈ all)
    (hsort : insertAll? sorted items = some result) :
    result.filter (fun x => sortOrder key x = .eq) =
      (sorted.reverse ++ items).filter fun x => sortOrder key x = .eq := by
  induction items generalizing sorted with
  | nil =>
      cases hsort
      rw [List.append_nil]
  | cons item rest ih =>
      obtain ⟨next, hinsert, hrest⟩ := insertAll?_cons_eq_some.mp hsort
      have hitem : item ∈ all := hall item (by simp)
      have hsorted : ∀ x ∈ sorted, x ∈ all := fun x hx => hall x (List.mem_append_left _ hx)
      rw [ih (forall_mem_insertBack? hinsert hall) hrest, List.filter_append,
        insertBack?_filter htotal hkey hitem hsorted hinsert, ← List.filter_append,
        List.append_assoc, List.singleton_append]

/-! ## Sorted lists -/

theorem sort?_perm (hsort : sort? items = some result) : result.Perm items :=
  insertAll?_perm hsort

theorem sort?_ascending (hchained : Chained (· ∈ items)) (hsort : sort? items = some result) :
    result.Pairwise NotAbove :=
  insertAll?_ascending hchained (fun _ hx => hx) .nil hsort

theorem comparable_of_sort? (hchained : Chained (· ∈ items)) (hsort : sort? items = some result) :
    items.Pairwise Comparable := by
  have hresult := (sort?_ascending hchained hsort).imp NotAbove.comparable
  exact ((sort?_perm hsort).pairwise_iff Comparable.symm).mp hresult

theorem stableSort_of_sort? (htotal : TotalOrderOn sortOrder items)
    (hsort : sort? items = some result) : StableSort sortOrder items result where
  perm := sort?_perm hsort
  ascending := (sort?_ascending (chained_of_totalOrder htotal) hsort).imp NotAbove.sortOrder_ne
  stable _key hkey := insertAll?_filter htotal hkey (fun _ hx => hx) hsort

theorem sort?_eq_none (hchained : Chained (· ∈ items)) (hitems : ¬ items.Pairwise Comparable) :
    sort? items = none := by
  cases hsort : sort? items with
  | none => rfl
  | some result => exact absurd (comparable_of_sort? hchained hsort) hitems

/-! ## Extremes -/

theorem NotAbove.flip (hab : NotAbove a b) : ∃ order, b.order? a = some order ∧ order ≠ .lt := by
  obtain ⟨order, horder, hle⟩ := hab
  refine ⟨order.swap, by rw [order?_swap, horder, Option.map_some], ?_⟩
  cases order <;> simp_all

theorem notAbove_of_eq (hequal : a.order? b = some .eq) : NotAbove a b :=
  ⟨.eq, hequal, by decide⟩

theorem order?_self {order : Ordering} (horder : a.order? a = some order) : order = .eq := by
  have hswap := order?_swap a a
  rw [horder] at hswap
  cases order with
  | eq => rfl
  | lt | gt => cases hswap

theorem extremumFrom_cons {function : String} {before order : Ordering} {best : Value}
    (horder : item.order? best = some order) :
    Function.extremumFrom function before best (item :: items) =
      Function.extremumFrom function before (if order = before then item else best) items := by
  rw [Function.extremumFrom, horder]

/-- The least of the values is the first one when they are sorted. -/
theorem insertAll?_least {function : String} {best : Value} (hchained : Chained S)
    (hall : ∀ x ∈ sorted ++ items, S x) (hdescending : Descending sorted)
    (hbest : sorted.getLast? = some best) (hsort : insertAll? sorted items = some result) :
    ∃ first, result.head? = some first ∧
      Function.extremumFrom function .lt best items = .ok first := by
  induction items generalizing sorted best with
  | nil =>
      cases hsort
      exact ⟨best, by rw [List.head?_reverse, hbest], rfl⟩
  | cons item rest ih =>
      obtain ⟨next, hinsert, hrest⟩ := insertAll?_cons_eq_some.mp hsort
      have hnext := hdescending.insertBack? hchained hall hinsert
      have hall' := forall_mem_insertBack? hinsert hall
      obtain ⟨above, below, rfl, rfl, habove, hbelow⟩ := insertBack?_eq_some hinsert
      cases below with
      | nil =>
          -- The new value is less than all others.
          rw [List.append_nil] at hbest
          have horder := habove best (List.mem_of_getLast? hbest)
          have hlast : (above ++ [item]).getLast? = some item := List.getLast?_concat
          rw [extremumFrom_cons horder, if_pos rfl]
          exact ih hall' hnext hlast hrest
      | cons last below =>
          have hlast := hbelow last rfl
          have hlow := (List.pairwise_cons.mp (List.pairwise_append.mp hdescending).2.1).1
          have hbest' : best ∈ last :: below := by
            rw [List.getLast?_append_of_ne_nil _ (List.cons_ne_nil _ _)] at hbest
            exact List.mem_of_getLast? hbest
          have hle : NotAbove best item := by
            rcases List.mem_cons.mp hbest' with rfl | hmem
            · exact hlast
            · exact hchained best last item (hall best (by simp [hmem])) (hall last (by simp))
                (hall item (by simp)) (hlow best hmem) hlast
          obtain ⟨order, horder, hne⟩ := hle.flip
          have hlast' : (above ++ item :: last :: below).getLast? = some best := by
            rw [← hbest]
            simp [List.getLast?_append, List.getLast?_cons]
          rw [extremumFrom_cons horder, if_neg hne]
          exact ih hall' hnext hlast' hrest

/-- The greatest of the values is equal to the last one when they are sorted, or it is that one. -/
theorem insertAll?_greatest {function : String} {best top : Value} (hchained : Chained S)
    (hall : ∀ x ∈ sorted ++ items, S x) (hkept : S best) (hdescending : Descending sorted)
    (htop : sorted.head? = some top) (hbest : best.order? top = some .eq ∨ best = top)
    (hsort : insertAll? sorted items = some result) :
    ∃ greatest last, result.getLast? = some last ∧
      Function.extremumFrom function .gt best items = .ok greatest ∧
        (greatest.order? last = some .eq ∨ greatest = last) := by
  induction items generalizing sorted best top with
  | nil =>
      cases hsort
      exact ⟨best, top, by rw [List.getLast?_reverse, htop], rfl, hbest⟩
  | cons item rest ih =>
      obtain ⟨next, hinsert, hrest⟩ := insertAll?_cons_eq_some.mp hsort
      have hnext := hdescending.insertBack? hchained hall hinsert
      have hall' := forall_mem_insertBack? hinsert hall
      have hitem : S item := hall item (by simp)
      have htop' : S top := hall top (List.mem_append_left _ (List.mem_of_head? htop))
      obtain ⟨above, below, rfl, rfl, habove, hbelow⟩ := insertBack?_eq_some hinsert
      cases above with
      | nil =>
          -- The new value comes last, and takes the place of the greatest one if it is above it.
          have hle : NotAbove best item := by
            rcases hbest with hequal | rfl
            · exact hchained best top item hkept htop' hitem (notAbove_of_eq hequal)
                (hbelow top htop)
            · exact hbelow best htop
          obtain ⟨order, horder, hne⟩ := hle.flip
          rw [extremumFrom_cons horder]
          cases order with
          | lt => exact absurd rfl hne
          | eq => exact ih hall' hkept hnext rfl (.inl (order?_eq_symm horder)) hrest
          | gt => exact ih hall' hitem hnext rfl (.inr rfl) hrest
      | cons later above =>
          cases htop
          have hlt : NotAbove item top := ⟨.lt, habove top List.mem_cons_self, by decide⟩
          have hle : NotAbove item best := by
            rcases hbest with hequal | rfl
            · exact hchained item top best hitem htop' hkept hlt
                (notAbove_of_eq (order?_eq_symm hequal))
            · exact hlt
          obtain ⟨order, horder, hne⟩ := hle
          rw [extremumFrom_cons horder, if_neg hne]
          exact ih hall' hkept hnext rfl hbest hrest

/-! ## Sorting and extremes of a collection -/

variable {collection : Value}

theorem sorted_of_items (hitems : collection.iterate? = some items) :
    Function.sorted [collection] = match sort? items with
      | some result => .ok (.list result)
      | none => .error (.badArgument "sorted" "items are not mutually comparable") := by
  simp only [Function.sorted, Function.itemsOf, hitems]
  rfl

theorem sort?_of_sorted (hitems : collection.iterate? = some items)
    (hsorted : Function.sorted [collection] = .ok (.list result)) : sort? items = some result := by
  rw [sorted_of_items hitems] at hsorted
  cases hsort : sort? items with
  | none =>
      rw [hsort] at hsorted
      cases hsorted
  | some other =>
      rw [hsort] at hsorted
      cases hsorted
      rfl

theorem extremum_of_items {function : String} {before : Ordering}
    (hitems : collection.iterate? = some (item :: items)) :
    Function.extremum function before [collection] =
      Function.extremumFrom function before item items := by
  unfold Function.extremum
  simp only [hitems]
  rfl

/-- The comparison that the items of a collection are sorted by is a total order exactly if items
without an order are compared alike with every item and the others are chained; where they are not
chained, one of them blurs two others. If it is a total order, the collection is sorted to the only
list that a stable sort can give, or it is refused because two items have no order. -/
theorem sorted_contract (hitems : collection.iterate? = some items) :
    (TotalOrderOn sortOrder items ↔ UnorderedAlike items ∧ Chained (· ∈ items)) ∧
      (¬ Chained (· ∈ items) → ∃ number a b,
        number ∈ items ∧ a ∈ items ∧ b ∈ items ∧ Blurs number a b) ∧
      (TotalOrderOn sortOrder items →
        (items.Pairwise Comparable → ∃ result, Function.sorted [collection] = .ok (.list result) ∧
          ∀ other, StableSort sortOrder items other ↔ other = result) ∧
        (¬ items.Pairwise Comparable → Function.sorted [collection] =
          .error (.badArgument "sorted" "items are not mutually comparable"))) := by
  refine ⟨totalOrder_iff, exists_blurs, ?_⟩
  intro htotal
  rw [sorted_of_items hitems]
  constructor
  · intro hcomparable
    have hnone : ∀ item ∈ items, ∀ x ∈ [], Comparable item x := by simp
    obtain ⟨result, hsort⟩ := exists_insertAll? hcomparable hnone
    have hstable := stableSort_of_sort? htotal hsort
    refine ⟨result, by rw [sort?, hsort], fun other => ⟨hstable.unique htotal, ?_⟩⟩
    rintro rfl
    exact hstable
  · intro hcomparable
    rw [sort?_eq_none (chained_of_totalOrder htotal) hcomparable]

/-- Two numbers with a text in between are no list to be sorted: both count as equal to the text, and
one comes before the other. -/
theorem mixed_items_not_total :
    (list [int 1, str "a", int 0]).iterate? = some [int 1, str "a", int 0] ∧
      ¬ TotalOrderOn sortOrder [int 1, str "a", int 0] := by
  have hitems : (list [int 1, str "a", int 0]).iterate? = some [int 1, str "a", int 0] := rfl
  refine ⟨hitems, fun htotal => ?_⟩
  obtain ⟨halike, -⟩ := (sorted_contract hitems).1.mp htotal
  have hsame := halike (int 1) (by simp) (str "a") (by simp) rfl (int 0) (by simp)
  revert hsame
  decide

/-- What sorting and the extremes of a collection have in common: the result is an arrangement of the
items in which none is above a later one, it begins with the least item, and it ends with one that is
equal to the greatest item or, if it has no order even with itself, is that item. -/
structure SortedAlike (collection : Value) (items result : List Value) : Prop where
  perm : result.Perm items
  ascending : result.Pairwise NotAbove
  least : ∃ first, result.head? = some first ∧
    Function.extremum "min" .lt [collection] = .ok first
  greatest : ∃ greatest last, result.getLast? = some last ∧
    Function.extremum "max" .gt [collection] = .ok greatest ∧
      (greatest.order? last = some .eq ∨ greatest = last ∧ last.order? last = none)

theorem sortedAlike_of_chained (hchained : Chained S) (hall : ∀ item ∈ items, S item)
    (hitems : collection.iterate? = some items) (hne : items ≠ [])
    (hsorted : Function.sorted [collection] = .ok (.list result)) :
    SortedAlike collection items result := by
  have hsort := sort?_of_sorted hitems hsorted
  obtain ⟨item, rest, rfl⟩ := List.exists_cons_of_ne_nil hne
  have hrest : insertAll? [item] rest = some result := hsort
  have hsingle : Descending [item] := List.pairwise_singleton _ _
  refine ⟨sort?_perm hsort, insertAll?_ascending hchained hall .nil hsort, ?_, ?_⟩
  · rw [extremum_of_items hitems]
    exact insertAll?_least hchained hall hsingle rfl hrest
  · have hitem : S item := hall item List.mem_cons_self
    rw [extremum_of_items hitems]
    obtain ⟨greatest, last, hlast, hgreatest, hequal⟩ :=
      insertAll?_greatest hchained hall hitem hsingle rfl (.inr rfl) hrest
    refine ⟨greatest, last, hlast, hgreatest, ?_⟩
    rcases hequal with hequal | rfl
    · exact .inl hequal
    · cases hself : greatest.order? greatest with
      | none => exact .inr ⟨rfl, rfl⟩
      | some order =>
          rw [order?_self hself]
          exact .inl rfl

/-- Values of which none is above the next are left as they are. -/
theorem insertAll?_of_chain {top : Value} (hchain : (top :: items).IsChain NotAbove) :
    insertAll? (top :: sorted) items = some ((top :: sorted).reverse ++ items) := by
  induction items generalizing top sorted with
  | nil => rw [List.append_nil, insertAll?]
  | cons item rest ih =>
      rw [List.isChain_cons_cons] at hchain
      obtain ⟨order, horder, hne⟩ := hchain.1.flip
      have hinsert : insertBack? item (top :: sorted) = some (item :: top :: sorted) := by
        rw [insertBack?, horder]
        cases order with
        | lt => exact absurd rfl hne
        | eq | gt => rfl
      rw [insertAll?, hinsert]
      simp [ih hchain.2]

/-- Sorting agrees with the extremes on all collections of values of a class exactly if the values of
the class are chained. Where they are not, one of them blurs two others: it has a number that is
compared after rounding, and they have integers beyond 53 bits. -/
theorem sorted_agrees_with_extremes (S : Value → Prop) :
    ((∀ collection items result, collection.iterate? = some items → (∀ item ∈ items, S item) →
        items ≠ [] → Function.sorted [collection] = .ok (.list result) →
        SortedAlike collection items result) ↔ Chained S) ∧
      (¬ Chained S → ∃ number a b, S number ∧ S a ∧ S b ∧ Blurs number a b) ∧
      ∀ number a b, Blurs number a b →
        (∃ part, Relation.ReflTransGen Part part number ∧ part.ComparedRounded) ∧
          ∃ i : Int, Relation.ReflTransGen Part (int i) a ∧ 2 ^ 53 ≤ i.natAbs := by
  refine ⟨⟨?_, ?_⟩, exists_blurs, fun number a b => Blurs.parts⟩
  · intro halike a b c ha hb hc hab hbc
    have hsorted : Function.sorted [list [a, b, c]] = .ok (list [a, b, c]) := by
      have hchain : [a, b, c].IsChain NotAbove := by simp [hab, hbc]
      rw [sorted_of_items rfl, sort?, insertAll?, insertBack?]
      simp [insertAll?_of_chain hchain]
    have hascending := (halike _ _ _ rfl (by simp [ha, hb, hc]) (by simp) hsorted).ascending
    simp only [List.pairwise_cons] at hascending
    exact hascending.1 c (by simp)
  · intro hchained collection items result hitems hall hne hsorted
    exact sortedAlike_of_chained hchained hall hitems hne hsorted

/-- Two neighbouring integers around the number that both are rounded to stay in descending order. -/
theorem neighbours_left_descending :
    let above : Value := int (2 ^ 53 + 1)
    let rounded : Value := float (Binary64.ofInt (2 ^ 53))
    let below : Value := int (2 ^ 53)
    Function.sorted [list [above, rounded, below]] = .ok (list [above, rounded, below]) ∧
      above.order? below = some .gt ∧ ¬ Chained (· ∈ [above, rounded, below]) := by
  intro above rounded below
  have hleft : NotAbove above rounded := ⟨.eq, by decide +kernel, by decide⟩
  have hright : NotAbove rounded below := ⟨.eq, by decide +kernel, by decide⟩
  have hsorted : Function.sorted [list [above, rounded, below]] =
      .ok (list [above, rounded, below]) := by
    have hchain : [above, rounded, below].IsChain NotAbove := by simp [hleft, hright]
    rw [sorted_of_items rfl, sort?, insertAll?, insertBack?]
    simp [insertAll?_of_chain hchain]
  refine ⟨hsorted, rfl, ?_⟩
  intro hchained
  have halike := (sorted_agrees_with_extremes (· ∈ [above, rounded, below])).1.mpr hchained
    (list [above, rounded, below]) _ _ rfl (by simp) (by simp) hsorted
  have hascending := halike.ascending
  simp only [List.pairwise_cons] at hascending
  obtain ⟨order, horder, hle⟩ := hascending.1 below (by simp)
  cases horder
  exact hle rfl

end SchemaGuard.Value
