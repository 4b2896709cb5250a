import SchemaGuard.Eval.Operators
import SchemaGuard.Function.Collections
import SchemaGuard.Proofs.Coercion
import SchemaGuard.Proofs.Order

/-! # The algebra of sets

Of equal values the first one is kept, and what is kept depends on nothing else. The functions that
treat collections as sets obey the laws of sets just where equality is transitive: what is equal to a
value that was dropped must be equal to the one for which it was dropped. Equality is transitive
where no number is compared after rounding.
-/

namespace SchemaGuard.Value

/-- A value that is equal to one of two equal values of a class is equal to the other one. -/
def EqualAlike (S : Value → Prop) (value : Value) : Prop :=
  ∀ a b, S a → S b → equal a b = true → equal b value = true → equal a value = true

/-- A collection of values of a class. -/
def Over (S : Value → Prop) (collection : Value) : Prop :=
  ∃ items, collection.iterate? = some items ∧ ∀ item ∈ items, S item

variable {S : Value → Prop} {a b c value : Value} {items kept left right : List Value}

/-! ## Repetitions -/

theorem dedupInto_append (kept left right : List Value) :
    dedupInto kept (left ++ right) = dedupInto (dedupInto kept left) right := by
  induction left generalizing kept with
  | nil => rfl
  | cons item rest ih =>
      rw [List.cons_append, dedupInto, dedupInto]
      split
      · exact ih kept
      · exact ih (kept ++ [item])

theorem dedup_append (left right : List Value) :
    dedup (left ++ right) = dedupInto (dedup left) right :=
  dedupInto_append [] left right

theorem memberOf_append (left right : List Value) (value : Value) :
    memberOf (left ++ right) value = (memberOf left value || memberOf right value) :=
  List.any_append

theorem memberOf_eq_true : memberOf items value = true ↔ ∃ found ∈ items, equal found value = true :=
  List.any_eq_true

theorem dedupInto_cons (kept : List Value) (item : Value) (rest : List Value) :
    dedupInto kept (item :: rest) =
      if memberOf kept item = true then dedupInto kept rest
      else dedupInto (kept ++ [item]) rest := by
  rw [dedupInto]
  rfl

theorem forall_mem_dedup (hitems : ∀ item ∈ items, S item) : ∀ item ∈ dedup items, S item :=
  fun item hitem => hitems item (mem_of_mem_dedup hitem)

/-- What is equal to a value that is found is found. -/
theorem memberOf_of_equal {item : Value} (hitems : ∀ item ∈ items, S item) (hitem : S item)
    (hvalue : EqualAlike S value) (hfound : memberOf items item = true)
    (hequal : equal item value = true) : memberOf items value = true := by
  obtain ⟨found, hmem, hfound⟩ := memberOf_eq_true.mp hfound
  apply memberOf_eq_true.mpr
  exact ⟨found, hmem, hvalue found item (hitems found hmem) hitem hfound hequal⟩

/-- A value is found among those that are kept if it was found before. -/
theorem memberOf_dedup (hitems : ∀ item ∈ items, S item) (hvalue : EqualAlike S value) :
    memberOf (dedup items) value = memberOf items value := by
  rw [Bool.eq_iff_iff, memberOf_eq_true, memberOf_eq_true]
  constructor
  · rintro ⟨found, hfound, hequal⟩
    exact ⟨found, mem_of_mem_dedup hfound, hequal⟩
  · rintro ⟨found, hfound, hequal⟩
    obtain ⟨seen, hseen, rfl | hsame⟩ := exists_mem_dedup hfound
    · exact ⟨seen, hseen, hequal⟩
    · have hseen' := forall_mem_dedup hitems seen hseen
      exact ⟨seen, hseen, hvalue seen found hseen' (hitems found hfound) hsame hequal⟩

/-- Beside what is kept already, those of the values are kept that it lacks. -/
theorem dedupInto_eq (htransitive : ∀ value, S value → EqualAlike S value)
    (hkept : ∀ item ∈ kept, S item) (hitems : ∀ item ∈ items, S item) :
    dedupInto kept items = kept ++ (dedup items).filter fun item => !memberOf kept item := by
  induction items generalizing kept with
  | nil => rw [dedupInto, dedup, dedupInto, List.filter_nil, List.append_nil]
  | cons item rest ih =>
      rw [List.forall_mem_cons] at hitems
      obtain ⟨hitem, hrest⟩ := hitems
      have hsingle : ∀ value ∈ [item], S value := by simpa using hitem
      have hfirst : dedup (item :: rest) =
          item :: (dedup rest).filter fun later => !memberOf [item] later := ih hsingle hrest
      rw [hfirst, dedupInto_cons]
      split
      next hseen =>
        rw [ih hkept hrest, List.filter_cons_of_neg (by simp [hseen]), List.filter_filter]
        congr 1
        -- What the first item has made drop is found where that item is.
        refine List.filter_congr fun later hlater => ?_
        have hfound : memberOf [item] later = true → memberOf kept later = true := by
          intro hsame
          have hequal : equal item later = true := by simpa [memberOf] using hsame
          have hlater' := htransitive later (forall_mem_dedup hrest later hlater)
          exact memberOf_of_equal hkept hitem hlater' hseen hequal
        by_cases hkept' : memberOf kept later = true
        · simp [hkept']
        · simp [hkept', mt hfound hkept']
      next hnew =>
        have hboth : ∀ value ∈ kept ++ [item], S value :=
          List.forall_mem_append.mpr ⟨hkept, hsingle⟩
        rw [ih hboth hrest, List.filter_cons_of_pos (by simpa using hnew), List.filter_filter,
          List.append_assoc, List.singleton_append]
        simp [memberOf_append]

theorem dedup_dedup_append (left right : List Value) :
    dedup (dedup left ++ right) = dedup (left ++ right) := by
  rw [dedup_append, dedup_append, dedup_dedup]

/-- Repetitions may be dropped before the values are put behind others. -/
theorem dedup_append_dedup (htransitive : ∀ value, S value → EqualAlike S value)
    (hleft : ∀ item ∈ left, S item) (hright : ∀ item ∈ right, S item) :
    dedup (left ++ dedup right) = dedup (left ++ right) := by
  have hkept := forall_mem_dedup hleft
  rw [dedup_append, dedup_append, dedupInto_eq htransitive hkept (forall_mem_dedup hright),
    dedup_dedup, dedupInto_eq htransitive hkept hright]

theorem dedup_append_eq (htransitive : ∀ value, S value → EqualAlike S value)
    (hleft : ∀ item ∈ left, S item) (hright : ∀ item ∈ right, S item) :
    dedup (left ++ right) = dedup left ++ (dedup right).filter fun item => !memberOf left item := by
  rw [dedup_append, dedupInto_eq htransitive (forall_mem_dedup hleft) hright]
  congr 1
  refine List.filter_congr fun item hitem => ?_
  rw [memberOf_dedup hleft (htransitive item (forall_mem_dedup hright item hitem))]

/-- Values are all found among others if those are that are kept of them. -/
theorem all_memberOf_iff (htransitive : ∀ value, S value → EqualAlike S value)
    (hleft : ∀ item ∈ left, S item) (hright : ∀ item ∈ right, S item) :
    left.all (memberOf right) = true ↔
      (dedup left).filter (fun item => !memberOf right item) = [] := by
  rw [List.all_eq_true, List.filter_eq_nil_iff]
  constructor
  · intro hall item hitem
    simpa using hall item (mem_of_mem_dedup hitem)
  · intro hall item hitem
    obtain ⟨seen, hseen, hsame⟩ := exists_mem_dedup hitem
    have hfound : memberOf right seen = true := by simpa using hall seen hseen
    rcases hsame with rfl | hequal
    · exact hfound
    · have hseen' := forall_mem_dedup hleft seen hseen
      exact memberOf_of_equal hright hseen' (htransitive item (hleft item hitem)) hfound hequal

/-! ## Which values are kept -/

theorem dedup_concat (items : List Value) (item : Value) :
    dedup (items ++ [item]) =
      if memberOf (dedup items) item = true then dedup items else dedup items ++ [item] := by
  rw [dedup_append, dedupInto_cons]
  rfl

/-- What is kept already stands first. -/
theorem prefix_dedupInto (kept items : List Value) : kept <+: dedupInto kept items := by
  induction items generalizing kept with
  | nil => exact List.prefix_rfl
  | cons item rest ih =>
      rw [dedupInto_cons]
      split
      · exact ih kept
      · exact (List.prefix_append kept [item]).trans (ih (kept ++ [item]))

theorem head?_dedup (items : List Value) : (dedup items).head? = items.head? := by
  cases items with
  | nil => rfl
  | cons item rest =>
      obtain ⟨later, hlater⟩ : [item] <+: dedup (item :: rest) := prefix_dedupInto [item] rest
      rw [← hlater]
      rfl

theorem dedupInto_sublist (kept items : List Value) :
    (dedupInto kept items).Sublist (kept ++ items) := by
  induction items generalizing kept with
  | nil => rw [List.append_nil, dedupInto]
  | cons item rest ih =>
      rw [dedupInto_cons]
      split
      · exact (ih kept).trans ((List.sublist_cons_self item rest).append_left kept)
      · have hrest := ih (kept ++ [item])
        rwa [List.append_assoc, List.singleton_append] at hrest

/-- Nothing is added to values if every other value is found among them. -/
theorem dedupInto_of_memberOf (hitems : ∀ item ∈ items, memberOf kept item = true) :
    dedupInto kept items = kept := by
  induction items with
  | nil => rfl
  | cons item rest ih =>
      obtain ⟨hitem, hrest⟩ := List.forall_mem_cons.mp hitems
      rw [dedupInto_cons, if_pos hitem, ih hrest]

theorem memberOf_dedup_of_mem (hitems : ∀ item ∈ items, item.BindsOnce) {item : Value}
    (hitem : item ∈ items) : memberOf (dedup items) item = true := by
  obtain ⟨seen, hseen, rfl | hequal⟩ := exists_mem_dedup hitem
  · exact memberOf_eq_true.mpr ⟨seen, hseen, equal_refl (hitems seen hitem)⟩
  · exact memberOf_eq_true.mpr ⟨seen, hseen, hequal⟩

/-- The places at which the values that are kept stand in a list. Every value of the list is equal to
one that is kept from its own place or from an earlier one. -/
structure KeptAt (items kept : List Value) (places : List Nat) : Prop where
  increasing : places.Pairwise (· < ·)
  found : places.map (items[·]?) = kept.map some
  covered : ∀ (i : Nat) (item : Value), items[i]? = some item →
    ∃ place ∈ places, place ≤ i ∧ ∃ seen, items[place]? = some seen ∧ equal seen item = true

namespace KeptAt

variable {places places' : List Nat} {item : Value}

theorem lt_length (hkept : KeptAt items kept places) {place : Nat} (hplace : place ∈ places) :
    place < items.length := by
  have hfound : items[place]? ∈ kept.map some := by
    rw [← hkept.found]
    exact List.mem_map_of_mem hplace
  obtain ⟨seen, -, hseen⟩ := List.mem_map.mp hfound
  exact (List.getElem?_eq_some_iff.mp hseen.symm).1

theorem exists_place (hkept : KeptAt items kept places) {seen : Value} (hseen : seen ∈ kept) :
    ∃ place ∈ places, items[place]? = some seen := by
  have hfound : some seen ∈ places.map (items[·]?) := by
    rw [hkept.found]
    exact List.mem_map_of_mem hseen
  exact List.mem_map.mp hfound

theorem getElem?_concat (hkept : KeptAt items kept places) (item : Value) {place : Nat}
    (hplace : place ∈ places) : (items ++ [item])[place]? = items[place]? :=
  List.getElem?_append_left (hkept.lt_length hplace)

theorem found_concat (hkept : KeptAt items kept places) (item : Value) :
    places.map ((items ++ [item])[·]?) = kept.map some := by
  rw [← hkept.found]
  exact List.map_congr_left fun place hplace => hkept.getElem?_concat item hplace

/-- With one more item at the end, only that item has to be found. -/
theorem covered_concat (hkept : KeptAt items kept places) (hplaces : places ⊆ places')
    (hitem : ∃ place ∈ places', place ≤ items.length ∧
      ∃ seen, (items ++ [item])[place]? = some seen ∧ equal seen item = true)
    (i : Nat) (later : Value) (hlater : (items ++ [item])[i]? = some later) :
    ∃ place ∈ places', place ≤ i ∧
      ∃ seen, (items ++ [item])[place]? = some seen ∧ equal seen later = true := by
  rcases Nat.lt_or_ge i items.length with hlt | hge
  · rw [List.getElem?_append_left hlt] at hlater
    obtain ⟨place, hplace, hle, seen, hfound, hequal⟩ := hkept.covered i later hlater
    exact ⟨place, hplaces hplace, hle, seen, (hkept.getElem?_concat item hplace).trans hfound,
      hequal⟩
  · rw [List.getElem?_append_right hge, List.getElem?_singleton] at hlater
    split at hlater <;> cases hlater
    obtain ⟨place, hplace, hle, hseen⟩ := hitem
    exact ⟨place, hplace, hle.trans hge, hseen⟩

/-- An item is dropped if an equal one is kept. -/
theorem concat_dropped (hkept : KeptAt items kept places) (hitem : memberOf kept item = true) :
    KeptAt (items ++ [item]) kept places := by
  obtain ⟨seen, hseen, hequal⟩ := memberOf_eq_true.mp hitem
  obtain ⟨place, hplace, hfound⟩ := hkept.exists_place hseen
  refine ⟨hkept.increasing, hkept.found_concat item,
    hkept.covered_concat (List.Subset.refl _) ?_⟩
  exact ⟨place, hplace, (hkept.lt_length hplace).le, seen,
    (hkept.getElem?_concat item hplace).trans hfound, hequal⟩

theorem concat_kept (hkept : KeptAt items kept places) (hitem : item.BindsOnce) :
    KeptAt (items ++ [item]) (kept ++ [item]) (places ++ [items.length]) := by
  have hlast : (items ++ [item])[items.length]? = some item := List.getElem?_concat_length
  refine ⟨?_, ?_, hkept.covered_concat (List.subset_append_left ..) ?_⟩
  · refine List.pairwise_append.mpr ⟨hkept.increasing, List.pairwise_singleton _ _, ?_⟩
    intro place hplace last hlast
    rw [List.mem_singleton.mp hlast]
    exact hkept.lt_length hplace
  · rw [List.map_append, List.map_append, hkept.found_concat item, List.map_singleton,
      List.map_singleton, hlast]
  · exact ⟨items.length, by simp, Nat.le_refl _, item, hlast, equal_refl hitem⟩

end KeptAt

theorem exists_keptAt (hitems : ∀ item ∈ items, item.BindsOnce) :
    ∃ places, KeptAt items (dedup items) places := by
  induction items using List.reverseRecOn with
  | nil => exact ⟨[], List.Pairwise.nil, rfl, by simp⟩
  | append_singleton items item ih =>
      obtain ⟨hbefore, hitem⟩ := List.forall_mem_append.mp hitems
      obtain ⟨places, hkept⟩ := ih hbefore
      rw [dedup_concat]
      split
      next hseen => exact ⟨places, hkept.concat_dropped hseen⟩
      next => exact ⟨_, hkept.concat_kept (hitem item (List.mem_singleton_self item))⟩

/-- Of every list a sublist is kept that has its first value. No two values that are kept are equal,
and every value is equal to one that is kept from the same place or an earlier one. Nothing more is
dropped from what is kept, and nothing is added to it by the values of the list. -/
theorem dedup_canonical (hitems : ∀ item ∈ items, item.BindsOnce) :
    (dedup items).Sublist items ∧ (dedup items).head? = items.head? ∧
      (∀ (i j : Nat) (hi : i < (dedup items).length) (hj : j < (dedup items).length), i ≠ j →
        equal (dedup items)[i] (dedup items)[j] = false) ∧
      (∃ places, KeptAt items (dedup items) places) ∧
      dedup (dedup items) = dedup items ∧ dedup (dedup items ++ items) = dedup items := by
  have hkept : ∀ item ∈ dedup items, item.BindsOnce := forall_mem_dedup hitems
  refine ⟨dedupInto_sublist [] items, head?_dedup items, ?_, exists_keptAt hitems,
    dedup_dedup items, ?_⟩
  · intro i j hi hj hne
    exact (dedup_distinct items).not_equal hkept hi hj hne
  · rw [dedup_append, dedup_dedup]
    exact dedupInto_of_memberOf fun item hitem => memberOf_dedup_of_mem hitems hitem

/-- Lists and tables with equal numbers are repetitions, whatever the numbers are and in whatever
order the names are. -/
theorem dedup_nested_numbers :
    let one : Value := float (Binary64.ofInt 1)
    let first : Value := list [int 1, dict [("a", one), ("b", null)]]
    let second : Value := list [one, dict [("b", null), ("a", int 1)]]
    dedup [first, str "1", second] = [first, str "1"] ∧
      dedup ([first, str "1"] ++ [first, str "1", second]) = [first, str "1"] := by
  intro one first second
  have hequal : equal first second = true := by decide +kernel
  have hfirst : equal first (str "1") = false := rfl
  have hkept : dedup [first, str "1", second] = [first, str "1"] := by
    simp [dedup, dedupInto, hequal, hfirst]
  have hbinds : ∀ item ∈ [first, str "1", second], item.BindsOnce := by
    simp [first, second, one, BindsOnce, BindsOnceIn, BindsOnceUnder, Table.keys]
  obtain ⟨-, -, -, -, -, hagain⟩ := dedup_canonical hbinds
  rw [hkept] at hagain
  exact ⟨hkept, hagain⟩

/-! ## Where equality is not transitive -/

/-- A value with parts is equal to itself and to values of the same shape only. -/
theorem sameShape_of_equal {part : Value} (hpart : Part part a) (hequal : equal a b = true) :
    a = b ∨ SameShape a b := by
  rcases equal_cases hequal with rfl | hnumbers | hshape
  · exact .inl rfl
  · obtain ⟨x, y, hx, -, -⟩ := units_eq_of_numberEqual hnumbers
    cases hpart.float?_eq_none.symm.trans hx
  · exact .inr hshape

/-- A number that is equal to two different integers is compared after rounding. -/
theorem comparedRounded_of_equal {i j : Int} (hi : Int64Range.holds i = true)
    (hj : Int64Range.holds j = true) (hne : i ≠ j) (hleft : equal (int i) b = true)
    (hright : equal b (int j) = true) : b.ComparedRounded := by
  have hnumber : ∃ y, b.float? = some y := by
    cases b with
    | int | float => exact ⟨_, rfl⟩
    | _ => cases hleft
  obtain ⟨y, hy⟩ := hnumber
  rw [equal_numbers rfl hy, numberEqual, int64?_int hi] at hleft
  rw [equal_numbers hy rfl, numberEqual, int64?_int hj] at hright
  refine ⟨?_, Option.isSome_of_eq_some hy⟩
  cases hk : b.int64? with
  | none => rfl
  | some k =>
      rw [hk] at hleft hright
      have hik : i = k := beq_iff_eq.mp hleft
      have hkj : k = j := beq_iff_eq.mp hright
      exact absurd (hik.trans hkj) hne

/-- Values that collide are equal to one value only if it has a number that is compared after
rounding. -/
theorem Collides.rounded_between (hcollides : Collides a c) (ha : a.BindsOnce) (hb : b.BindsOnce)
    (hc : c.BindsOnce) (hab : equal a b = true) (hbc : equal b c = true) :
    ∃ part, Relation.ReflTransGen Part part b ∧ part.ComparedRounded := by
  induction hcollides generalizing b with
  | integers hi hj hne _ => exact ⟨b, .refl, comparedRounded_of_equal hi hj hne hab hbc⟩
  | @parts left right a c place hleft hright hparts ih =>
      have hunequal := (Collides.parts place hleft hright hparts).not_equal ha hc
      have hpart : Part a left := ⟨place, hleft⟩
      have hpart' : Part c right := ⟨place, hright⟩
      rcases sameShape_of_equal hpart hab with rfl | hshape
      · exact absurd hbc hunequal
      rcases sameShape_of_equal hpart' (equal_symm hb hc hbc) with rfl | hshape'
      · exact absurd hab hunequal
      have hfound := (equal_iff_parts hshape ha hb).mp hab place
      have hfound' := (equal_iff_parts hshape'.symm hb hc).mp hbc place
      rw [hleft] at hfound
      rw [hright] at hfound'
      cases hmiddle : b.part? place with
      | none =>
          rw [hmiddle] at hfound
          cases hfound
      | some inner =>
          rw [hmiddle] at hfound hfound'
          cases hfound with
          | some hfirst =>
              cases hfound' with
              | some hlast =>
                  have hinner : Part inner b := ⟨place, hmiddle⟩
                  obtain ⟨part, hwithin, hrounded⟩ := ih (hpart.bindsOnce ha) (hinner.bindsOnce hb)
                    (hpart'.bindsOnce hc) hfirst hlast
                  exact ⟨part, hwithin.tail hinner, hrounded⟩

/-- A value that is equal to one of two equal values only collides with the other one, and the one
has a number that is compared after rounding. -/
theorem exists_collides (hS : ∀ value, S value → value.BindsOnce) (hvalue : value.BindsOnce)
    (hapart : ¬ EqualAlike S value) :
    ∃ a b, S a ∧ S b ∧ equal a b = true ∧ equal b value = true ∧ Collides a value ∧
      ∃ part, Relation.ReflTransGen Part part b ∧ part.ComparedRounded := by
  unfold EqualAlike at hapart
  push Not at hapart
  obtain ⟨a, b, ha, hb, hab, hbv, hunequal⟩ := hapart
  have hcollides := (equal_or_collides (hS a ha) (hS b hb) hvalue hab hbv).resolve_left hunequal
  exact ⟨a, b, ha, hb, hab, hbv, hcollides,
    hcollides.rounded_between (hS a ha) (hS b hb) hvalue hab hbv⟩

/-! ## Laws of sets -/

/-- The laws of sets for collections of values of a class. What two collections share and what only
the first one has is in the order in which its set has it, split by membership in the second. The
union is the set of the first, and behind it what only the second has; it has what either of them has,
and it is associative. -/
structure SetLaws (S : Value → Prop) (a b c : Value) : Prop where
  partition : ∃ all other shared, Function.set [a] = .ok (list all) ∧
    Function.list [b] = .ok other ∧ (∀ item, Eval.compare .isIn item other = .ok (shared item)) ∧
    Function.intersection [a, b] = .ok (list (all.filter shared)) ∧
    Function.difference [a, b] = .ok (list (all.filter fun item => !shared item))
  union_eq : ∃ all new, Function.set [a] = .ok (list all) ∧
    Function.difference [b, a] = .ok (list new) ∧ Function.union [a, b] = .ok (list (all ++ new))
  subset_iff : ∃ contained, Function.issubset [a, b] = .ok (bool contained) ∧
    (contained = true ↔ Function.difference [a, b] = .ok (list []))
  member_iff : ∀ value, EqualAlike S value → ∃ left right both inLeft inRight,
    Function.list [a] = .ok left ∧ Function.list [b] = .ok right ∧
    Function.union [a, b] = .ok both ∧ Eval.compare .isIn value left = .ok inLeft ∧
    Eval.compare .isIn value right = .ok inRight ∧
    Eval.compare .isIn value both = .ok (inLeft || inRight)
  union_assoc : ∃ left right all, Function.union [a, b] = .ok left ∧
    Function.union [b, c] = .ok right ∧ Function.union [left, c] = .ok all ∧
    Function.union [a, right] = .ok all

theorem itemsOf_eq (hitems : a.iterate? = some items) (function : String) :
    Function.itemsOf function a = .ok items := by
  rw [Function.itemsOf, hitems]

theorem union_of_items (hleft : a.iterate? = some left) (hright : b.iterate? = some right) :
    Function.union [a, b] = .ok (list (dedup (left ++ right))) := by
  rw [Function.union, itemsOf_eq hleft, itemsOf_eq hright]
  rfl

theorem difference_of_items (hleft : a.iterate? = some left) (hright : b.iterate? = some right) :
    Function.difference [a, b] =
      .ok (list ((dedup left).filter fun item => !memberOf right item)) := by
  rw [Function.difference, itemsOf_eq hleft, itemsOf_eq hright]
  rfl

theorem set_of_items (hitems : a.iterate? = some items) :
    Function.set [a] = .ok (list (dedup items)) := by
  rw [Function.set, itemsOf_eq hitems]
  rfl

theorem list_of_items (hitems : a.iterate? = some items) :
    Function.list [a] = .ok (list items) := by
  rw [Function.list, itemsOf_eq hitems]
  rfl

theorem setLaws_of_transitive (htransitive : ∀ value, S value → EqualAlike S value)
    (ha : Over S a) (hb : Over S b) (hc : Over S c) : SetLaws S a b c := by
  obtain ⟨left, hleft, hleft'⟩ := ha
  obtain ⟨right, hright, hright'⟩ := hb
  obtain ⟨last, hlast, hlast'⟩ := hc
  constructor
  case partition =>
    refine ⟨dedup left, list right, memberOf right, set_of_items hleft, list_of_items hright,
      fun _ => rfl, ?_, difference_of_items hleft hright⟩
    rw [Function.intersection, itemsOf_eq hleft, itemsOf_eq hright]
    rfl
  case union_eq =>
    refine ⟨_, _, set_of_items hleft, difference_of_items hright hleft, ?_⟩
    rw [union_of_items hleft hright, dedup_append_eq htransitive hleft' hright']
  case subset_iff =>
    refine ⟨left.all (memberOf right), ?_, ?_⟩
    · rw [Function.issubset, itemsOf_eq hleft, itemsOf_eq hright]
      rfl
    · rw [difference_of_items hleft hright, all_memberOf_iff htransitive hleft' hright']
      simp
  case member_iff =>
    intro value hvalue
    refine ⟨list left, list right, _, memberOf left value, memberOf right value,
      list_of_items hleft, list_of_items hright, union_of_items hleft hright, rfl, rfl, ?_⟩
    rw [← memberOf_append, ← memberOf_dedup (List.forall_mem_append.mpr ⟨hleft', hright'⟩) hvalue]
    rfl
  case union_assoc =>
    refine ⟨_, _, _, union_of_items hleft hright, union_of_items hright hlast,
      union_of_items rfl hlast, ?_⟩
    have hbehind : ∀ item ∈ right ++ last, S item := List.forall_mem_append.mpr ⟨hright', hlast'⟩
    rw [union_of_items hleft rfl, dedup_append_dedup htransitive hleft' hbehind,
      dedup_dedup_append, List.append_assoc]

/-- Where the laws hold, equality is transitive: the union of a value with two others would keep the
second of these if only that one is not equal to it, but neither part of the union has it. -/
theorem equalAlike_of_union (hvalue : S value)
    (hlaws : ∀ a b c, Over S a → Over S b → Over S c → SetLaws S a b c) : EqualAlike S value := by
  intro a b ha hb hab hbv
  by_contra hunequal
  have hleft : Over S (list [a]) := ⟨[a], rfl, by simpa using ha⟩
  have hright : Over S (list [b, value]) := ⟨[b, value], rfl, by simp [hb, hvalue]⟩
  obtain ⟨all, new, hset, hnew, hunion⟩ := (hlaws _ _ _ hleft hright hleft).union_eq
  have hall : dedup [a] = [a] := rfl
  have hkept : dedup [b, value] = [b] := by simp [dedup, dedupInto, hbv]
  have hboth : dedup [a, b, value] = [a, value] := by simp [dedup, dedupInto, hab, hunequal]
  rw [set_of_items rfl, hall] at hset
  rw [difference_of_items rfl rfl, hkept] at hnew
  rw [union_of_items rfl rfl, List.singleton_append, hboth] at hunion
  cases hset
  have hnone : new = [] := by simpa [memberOf, hab, eq_comm] using hnew
  subst hnone
  cases hunion

/-- The functions on sets obey the laws of sets for all collections of values of a class exactly if
equality is transitive on the class. A value that is equal to one of two equal values only collides
with the other one, and the one has a number that is compared after rounding. So the laws hold for
all values without such numbers. -/
theorem set_laws (hS : ∀ value, S value → value.BindsOnce) :
    ((∀ a b c, Over S a → Over S b → Over S c → SetLaws S a b c) ↔
        ∀ value, S value → EqualAlike S value) ∧
      (∀ value, value.BindsOnce → ¬ EqualAlike S value →
        ∃ a b, S a ∧ S b ∧ equal a b = true ∧ equal b value = true ∧ Collides a value ∧
          ∃ part, Relation.ReflTransGen Part part b ∧ part.ComparedRounded) ∧
      ((∀ value part, S value → Relation.ReflTransGen Part part value → ¬ part.ComparedRounded) →
        (∀ a b c, Over S a → Over S b → Over S c → SetLaws S a b c) ∧
          ∀ value, value.BindsOnce → EqualAlike S value) := by
  refine ⟨⟨?_, ?_⟩, fun value => exists_collides hS, ?_⟩
  · intro hlaws value hvalue
    exact equalAlike_of_union hvalue hlaws
  · intro htransitive a b c
    exact setLaws_of_transitive htransitive
  · intro hexact
    have halike : ∀ value, value.BindsOnce → EqualAlike S value := by
      intro value hvalue
      by_contra hapart
      obtain ⟨_, b, _, hb, _, _, _, part, hwithin, hrounded⟩ := exists_collides hS hvalue hapart
      exact hexact b part hb hwithin hrounded
    refine ⟨fun a b c => setLaws_of_transitive ?_, halike⟩
    exact fun value hvalue => halike value (hS value hvalue)

/-- The greater of two neighbouring integers gets into a union from behind the number that both are
rounded to, but is not in the difference. -/
theorem neighbour_only_in_union :
    let below : Value := int (2 ^ 53)
    let rounded : Value := float (Binary64.ofInt (2 ^ 53))
    let above : Value := int (2 ^ 53 + 1)
    let left : Value := list [below]
    let right : Value := list [rounded, above]
    let given : Value → Prop := (· ∈ [below, rounded, above])
    Function.union [left, right] = .ok (list [below, above]) ∧
      Function.set [left] = .ok (list [below]) ∧
      Function.difference [right, left] = .ok (list []) ∧
      ¬ ∀ a b c, Over given a → Over given b → Over given c → SetLaws given a b c := by
  intro below rounded above left right given
  have hbelow : equal below rounded = true := by decide +kernel
  have habove : equal rounded above = true := by decide +kernel
  have hunequal : equal below above = false := rfl
  refine ⟨?_, ?_, ?_, ?_⟩
  · rw [union_of_items rfl rfl]
    simp [dedup, dedupInto, hbelow, hunequal]
  · rw [set_of_items rfl]
    simp [dedup, dedupInto]
  · rw [difference_of_items rfl rfl]
    simp [dedup, dedupInto, memberOf, hbelow, habove]
  · intro hlaws
    have hbinds : ∀ value, given value → value.BindsOnce := by
      simp [given, below, rounded, above, BindsOnce]
    have halike := (set_laws hbinds).1.mp hlaws above (by simp [given])
    have hequal := halike below rounded (by simp [given]) (by simp [given]) hbelow habove
    cases hunequal.symm.trans hequal

end SchemaGuard.Value
