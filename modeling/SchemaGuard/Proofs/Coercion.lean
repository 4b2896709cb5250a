import SchemaGuard.LeafType
import SchemaGuard.Proofs.Calendar
import SchemaGuard.Proofs.Equivalence
import Mathlib.Data.Option.Basic

/-! # Coerced values

Coercion yields values of one form for each type. So a value that coercion has yielded is one of
its type, and coercion yields it again unchanged.
-/

namespace SchemaGuard

/-! ## Values without repetitions -/

namespace Value

/-- A list in which no value equals a later one. -/
def Distinct (items : List Value) : Prop :=
  items.Pairwise fun seen item => equal seen item = false

theorem dedupInto_distinct {kept : List Value} (hkept : Distinct kept) (items : List Value) :
    Distinct (dedupInto kept items) := by
  induction items generalizing kept with
  | nil => exact hkept
  | cons item rest ih =>
      rw [dedupInto]
      split
      next => exact ih hkept
      next hnew =>
        refine ih (List.pairwise_append.mpr ⟨hkept, List.pairwise_singleton _ _, ?_⟩)
        rw [List.any_eq_true, not_exists] at hnew
        intro seen hseen found hfound
        rw [List.mem_singleton.mp hfound, ← Bool.not_eq_true]
        exact fun hequal => hnew seen ⟨hseen, hequal⟩

/-- Nothing is dropped from values that are distinct. -/
theorem dedupInto_of_distinct {kept items : List Value} (hdistinct : Distinct (kept ++ items)) :
    dedupInto kept items = kept ++ items := by
  induction items generalizing kept with
  | nil => simp [dedupInto]
  | cons item rest ih =>
      have hnew : kept.any (fun seen => equal seen item) = false := by
        rw [List.any_eq_false]
        intro seen hseen
        rw [(List.pairwise_append.mp hdistinct).2.2 seen hseen item List.mem_cons_self]
        exact Bool.false_ne_true
      -- The item is kept as well, and the rest is judged beside it.
      have hsplit : kept ++ item :: rest = (kept ++ [item]) ++ rest := by simp
      rw [dedupInto, hnew, if_neg Bool.false_ne_true, hsplit]
      exact ih (hsplit ▸ hdistinct)

theorem dedup_distinct (items : List Value) : Distinct (dedup items) :=
  dedupInto_distinct List.Pairwise.nil items

theorem dedup_dedup (items : List Value) : dedup (dedup items) = dedup items :=
  dedupInto_of_distinct (dedup_distinct items)

/-- No two values of a list without repetitions are equal, whichever comes first. -/
theorem Distinct.not_equal {items : List Value} (hdistinct : Distinct items)
    (hbinds : ∀ item ∈ items, item.BindsOnce) {i j : Nat} (hi : i < items.length)
    (hj : j < items.length) (hne : i ≠ j) : equal items[i] items[j] = false := by
  have hpairs := List.pairwise_iff_getElem.mp hdistinct
  rcases Nat.lt_or_gt_of_ne hne with hlt | hgt
  · exact hpairs i j hi hj hlt
  · rw [equal_comm (hbinds _ (List.getElem_mem hi)) (hbinds _ (List.getElem_mem hj))]
    exact hpairs j i hj hi hgt

end Value

/-! ## Scalar types -/

theorem Int64Range.check?_idem {i j : Int} (hcheck : check? i = some j) : check? j = some j := by
  unfold check? at hcheck
  split at hcheck
  next hholds =>
    cases hcheck
    rw [check?, if_pos hholds]
  next => cases hcheck

/-- The whole number that a floating point number stands for is a 64-bit integer. -/
theorem Binary64.check?_truncate {x : Binary64}
    (hbound : x.magnitude < ScalarType.integerBound * unitsPerOne) :
    Int64Range.check? x.truncate = some x.truncate := by
  -- Truncation is division of the magnitude, so the bound on the units is one on whole numbers.
  have habs : x.truncate.natAbs = x.magnitude / unitsPerOne := by
    rw [truncate, Int.natAbs_tdiv, natAbs_units, Int.natAbs_natCast]
    rfl
  have hlt : x.truncate.natAbs < ScalarType.integerBound := by
    rw [habs]
    exact Nat.div_lt_of_lt_mul (Nat.mul_comm _ _ ▸ hbound)
  have hholds : Int64Range.holds x.truncate = true := by
    simp only [Int64Range.holds, Bool.and_eq_true, decide_eq_true_eq]
    unfold ScalarType.integerBound at hlt
    omega
  rw [Int64Range.check?, if_pos hholds]

namespace ScalarType

theorem readInteger?_idem {value : Value} {i : Int} (hread : readInteger? value = some i) :
    readInteger? (.int i) = some i := by
  cases value with
  | int j => exact Int64Range.check?_idem hread
  | float x =>
      rw [readInteger?] at hread
      split at hread
      next hwhole =>
        cases hread
        exact Binary64.check?_truncate hwhole.2
      next => cases hread
  | str s =>
      obtain ⟨j, _, hcheck⟩ := Option.bind_eq_some_iff.mp hread
      exact Int64Range.check?_idem hcheck
  | _ => cases hread

theorem readDate?_idem {value : Value} {written : String} (hread : readDate? value = some written) :
    readDate? (.str written) = some written := by
  cases value with
  | str s =>
      obtain ⟨date, hdate, rfl⟩ := Option.map_eq_some_iff.mp hread
      rw [readDate?, String.toList_ofList, Calendar.date?_text hdate]
      rfl
  | _ => cases hread

theorem readMoment?_idem {value : Value} {written : String}
    (hread : readMoment? value = some written) : readMoment? (.str written) = some written := by
  cases value with
  | str s =>
      cases hmoment : Calendar.moment? s.toList with
      | none =>
          -- A time without an offset has been left as it was.
          have hkept := hread
          rw [readMoment?, hmoment] at hkept
          obtain ⟨_, _, rfl⟩ := Option.map_eq_some_iff.mp hkept
          exact hread
      | some moment =>
          rw [readMoment?, hmoment] at hread
          cases hread
          rw [readMoment?, String.toList_ofList,
            Calendar.moment?_text (Calendar.moment?_fits hmoment)]
  | _ => cases hread

/-- A scalar type yields what it has yielded again unchanged. -/
theorem coerce?_idem {type : ScalarType} {value coerced : Value}
    (hcoerce : type.coerce? value = some coerced) : type.coerce? coerced = some coerced := by
  cases type with
  | text =>
      obtain ⟨s, _, rfl⟩ := Option.map_eq_some_iff.mp hcoerce
      rfl
  | integer =>
      obtain ⟨i, hread, rfl⟩ := Option.map_eq_some_iff.mp hcoerce
      exact congrArg (Option.map Value.int) (readInteger?_idem hread)
  | number =>
      obtain ⟨x, _, rfl⟩ := Option.map_eq_some_iff.mp hcoerce
      rfl
  | boolean =>
      obtain ⟨b, _, rfl⟩ := Option.map_eq_some_iff.mp hcoerce
      rfl
  | date =>
      obtain ⟨written, hread, rfl⟩ := Option.map_eq_some_iff.mp hcoerce
      exact congrArg (Option.map Value.str) (readDate?_idem hread)
  | moment =>
      obtain ⟨written, hread, rfl⟩ := Option.map_eq_some_iff.mp hcoerce
      exact congrArg (Option.map Value.str) (readMoment?_idem hread)
  | any => rfl

theorem isDate_of_readDate? {s : String} (hread : readDate? (.str s) = some s) :
    Calendar.isDate s = true := by
  obtain ⟨date, hdate, -⟩ := Option.map_eq_some_iff.mp hread
  rw [Calendar.isDate, hdate]
  rfl

theorem isDateTime_of_readMoment? {s : String} (hread : readMoment? (.str s) = some s) :
    Calendar.isDateTime s = true := by
  rw [Calendar.isDateTime]
  cases hmoment : Calendar.moment? s.toList with
  | some moment => rfl
  | none =>
      rw [readMoment?, hmoment] at hread
      obtain ⟨time, htime, -⟩ := Option.map_eq_some_iff.mp hread
      rw [htime]
      rfl

/-- What a scalar type yields is of the kind with the name of the type. -/
theorem hasKind?_of_coerce? {type : ScalarType} {value coerced : Value}
    (hcoerce : type.coerce? value = some coerced) : coerced.hasKind? type.name = some true := by
  cases type with
  | date =>
      obtain ⟨s, hread, rfl⟩ := Option.map_eq_some_iff.mp hcoerce
      exact congrArg some (isDate_of_readDate? (readDate?_idem hread))
  | moment =>
      obtain ⟨s, hread, rfl⟩ := Option.map_eq_some_iff.mp hcoerce
      exact congrArg some (isDateTime_of_readMoment? (readMoment?_idem hread))
  | any => rfl
  | text | integer | number | boolean =>
      obtain ⟨read, -, rfl⟩ := Option.map_eq_some_iff.mp hcoerce
      rfl

end ScalarType

theorem LeafType.set_coerce? {value coerced : Value}
    (hcoerce : LeafType.set.coerce? value = some coerced) :
    ∃ items, value = .list items ∧ coerced = .list (Value.dedup items) := by
  cases value with
  | list items =>
      cases hcoerce
      exact ⟨items, rfl, rfl⟩
  | _ => cases hcoerce

/-- A type yields what it has yielded again unchanged. -/
theorem LeafType.coerced_again {type : LeafType} {value coerced : Value}
    (hcoerce : type.coerce? value = some coerced) : type.coerce? coerced = some coerced := by
  cases type with
  | scalar type => exact ScalarType.coerce?_idem hcoerce
  | list =>
      cases value with
      | list items =>
          cases hcoerce
          rfl
      | _ => cases hcoerce
  | set =>
      obtain ⟨items, rfl, rfl⟩ := set_coerce? hcoerce
      rw [coerce?, Value.dedup_dedup]

/-- Coercion is a retraction onto the type. What it yields it yields again unchanged, what it yields
for a scalar type is of the kind with the name of that type, and no two items of a set that it
yields are equal. -/
theorem LeafType.coerce_retracts {type : LeafType} {value coerced : Value}
    (hvalue : value.BindsOnce) (hcoerce : type.coerce? value = some coerced) :
    type.coerce? coerced = some coerced ∧
      (∀ item : ScalarType, type = .scalar item → coerced.hasKind? item.name = some true) ∧
      (type = .set → ∃ items, coerced = .list items ∧
        ∀ (i j : Nat) (hi : i < items.length) (hj : j < items.length), i ≠ j →
          Value.equal items[i] items[j] = false) := by
  refine ⟨coerced_again hcoerce, ?_, ?_⟩
  · rintro item rfl
    exact ScalarType.hasKind?_of_coerce? hcoerce
  · rintro rfl
    obtain ⟨items, rfl, rfl⟩ := set_coerce? hcoerce
    refine ⟨_, rfl, ?_⟩
    intro i j hi hj hne
    have hitems : ∀ item ∈ Value.dedup items, item.BindsOnce := fun item hitem =>
      Value.bindsOnceIn_iff.mp hvalue item (Value.mem_of_mem_dedup hitem)
    exact (Value.dedup_distinct items).not_equal hitems hi hj hne

/-- A number and an integer equal to it are one item of a set. -/
theorem LeafType.set_keeps_first :
    let items : List Value := [.float (Binary64.ofInt 1), .int 1, .str "1"]
    let kept : List Value := [.float (Binary64.ofInt 1), .str "1"]
    set.coerce? (.list items) = some (.list kept) ∧ set.coerce? (.list kept) = some (.list kept) ∧
      ∀ (i j : Nat) (hi : i < kept.length) (hj : j < kept.length), i ≠ j →
        Value.equal kept[i] kept[j] = false := by
  intro items kept
  have hequal : Value.equal (.float (Binary64.ofInt 1)) (.int 1) = true := by decide +kernel
  have hunequal : Value.equal (.float (Binary64.ofInt 1)) (.str "1") = false := rfl
  have hcoerce : set.coerce? (.list items) = some (.list kept) := by
    simp [coerce?, items, kept, Value.dedup, Value.dedupInto, hequal, hunequal]
  have hbinds : (Value.list items).BindsOnce :=
    Value.bindsOnceIn_iff.mpr (by simp [items, Value.BindsOnce])
  obtain ⟨hagain, -, hset⟩ := coerce_retracts hbinds hcoerce
  obtain ⟨found, hfound, hdistinct⟩ := hset rfl
  cases hfound
  exact ⟨hcoerce, hagain, hdistinct⟩

end SchemaGuard
