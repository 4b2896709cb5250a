import SchemaGuard.Proofs.Number
import SchemaGuard.Scalar
import SchemaGuard.Value.Equality
import SchemaGuard.Value.Kind

/-! # Equal values

Equal values are empty together, and apart from numbers they are of the same kinds. What is
dropped from a list as a repetition is equal to a value that is kept.
-/

namespace SchemaGuard.Value

variable {left right : Value}

/-! ## Numbers -/

theorem truthy_of_float? {value : Value} {x : Binary64} (hx : value.float? = some x) :
    value.truthy = !x.isZero := by
  cases value with
  | int i =>
      cases hx
      rw [truthy, Binary64.isZero_ofInt]
      rfl
  | float y =>
      cases hx
      rfl
  | _ => cases hx

theorem int64?_eq_some {value : Value} {i : Int} (hi : value.int64? = some i) :
    value = .int i ∧ Int64Range.holds i = true := by
  cases value with
  | int j =>
      rw [int64?, Int64Range.check?] at hi
      split at hi
      next hholds =>
        cases hi
        exact ⟨rfl, hholds⟩
      next => cases hi
  | _ => cases hi

theorem eq_int_of_int64? {value : Value} {i : Int} (hi : value.int64? = some i) :
    value = .int i :=
  (int64?_eq_some hi).1

theorem int64?_int {i : Int} (hi : Int64Range.holds i = true) : (int i).int64? = some i := by
  rw [int64?, Int64Range.check?, if_pos hi]

theorem truthy_of_numberEqual (hequal : numberEqual left right = true) :
    left.truthy = right.truthy := by
  unfold numberEqual at hequal
  split at hequal
  next i j hi hj =>
    obtain ⟨rfl, rfl⟩ : left = .int i ∧ right = .int j := ⟨eq_int_of_int64? hi, eq_int_of_int64? hj⟩
    rw [beq_iff_eq.mp hequal]
  next =>
    split at hequal
    next x y hx hy =>
      have hzero : x.isZero = y.isZero := by
        rw [Bool.eq_iff_iff, Binary64.isZero_iff, Binary64.isZero_iff, beq_iff_eq.mp hequal]
      rw [truthy_of_float? hx, truthy_of_float? hy, hzero]
    next => cases hequal

/-! ## Values of any kind -/

/-- Equal values are empty together. -/
theorem truthy_of_equal (hequal : equal left right = true) : left.truthy = right.truthy := by
  unfold equal at hequal
  split at hequal
  case h_1 => rfl
  case h_2 => exact beq_iff_eq.mp hequal
  case h_7 => rw [beq_iff_eq.mp hequal]
  case h_8 l r =>
    cases l <;> cases r <;> first | rfl | cases hequal
  case h_9 l r =>
    rw [Bool.and_eq_true, beq_iff_eq] at hequal
    cases l <;> cases r <;> first | rfl | cases hequal.1
  case h_10 => cases hequal
  all_goals exact truthy_of_numberEqual hequal

/-- Equal values are of the same scalar types, unless these are types of numbers. -/
theorem hasKind?_of_equal {item : ScalarType} (hitem : item.isNumeric = false)
    (hequal : equal left right = true) : left.hasKind? item.name = right.hasKind? item.name := by
  unfold equal at hequal
  split at hequal
  case h_7 => rw [beq_iff_eq.mp hequal]
  case h_10 => cases hequal
  all_goals cases item <;> first | rfl | cases hitem

/-! ## Repetitions -/

theorem mem_dedupInto {kept : List Value} {value : Value} (hvalue : value ∈ kept)
    (items : List Value) : value ∈ dedupInto kept items := by
  induction items generalizing kept with
  | nil => exact hvalue
  | cons item rest ih =>
      rw [dedupInto]
      split
      · exact ih hvalue
      · exact ih (List.mem_append_left _ hvalue)

theorem mem_of_mem_dedupInto {kept items : List Value} {value : Value}
    (hvalue : value ∈ dedupInto kept items) : value ∈ kept ∨ value ∈ items := by
  induction items generalizing kept with
  | nil => exact .inl hvalue
  | cons item rest ih =>
      rw [dedupInto] at hvalue
      split at hvalue
      · exact (ih hvalue).imp_right (List.mem_cons_of_mem item)
      · rcases ih hvalue with hkept | hrest
        · rcases List.mem_append.mp hkept with hkept | hitem
          · exact .inl hkept
          · exact .inr (List.mem_singleton.mp hitem ▸ List.mem_cons_self)
        · exact .inr (List.mem_cons_of_mem item hrest)

theorem mem_of_mem_dedup {items : List Value} {value : Value} (hvalue : value ∈ dedup items) :
    value ∈ items :=
  (mem_of_mem_dedupInto hvalue).resolve_left List.not_mem_nil

/-- A value of a list is kept, or one that is equal to it. -/
theorem exists_mem_dedup {items : List Value} {value : Value} (hvalue : value ∈ items) :
    ∃ seen ∈ dedup items, seen = value ∨ equal seen value = true := by
  suffices h : ∀ kept, ∃ seen ∈ dedupInto kept items, seen = value ∨ equal seen value = true from
    h []
  induction items with
  | nil => cases hvalue
  | cons item rest ih =>
      intro kept
      rw [dedupInto]
      rcases List.mem_cons.mp hvalue with rfl | hrest
      · split
        next hseen =>
          obtain ⟨seen, hmem, hequal⟩ := List.any_eq_true.mp hseen
          exact ⟨seen, mem_dedupInto hmem rest, .inr hequal⟩
        next =>
          have hmem : value ∈ kept ++ [value] := by simp
          exact ⟨value, mem_dedupInto hmem rest, .inl rfl⟩
      · split
        · exact ih hrest kept
        · exact ih hrest (kept ++ [item])

theorem dedup_eq_nil {items : List Value} : dedup items = [] ↔ items = [] := by
  constructor
  · intro hnil
    refine List.eq_nil_iff_forall_not_mem.mpr ?_
    intro value hvalue
    obtain ⟨seen, hseen, -⟩ := exists_mem_dedup hvalue
    rw [hnil] at hseen
    cases hseen
  · rintro rfl
    rfl

end SchemaGuard.Value
