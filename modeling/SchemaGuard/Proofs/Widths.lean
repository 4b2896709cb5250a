import Mathlib.Data.List.Perm.Subperm
import SchemaGuard.Eval.Operators
import SchemaGuard.Proofs.Outcome
import SchemaGuard.Proofs.Table

/-! # How long values are

The length of a value is that of the longest text, list or table in it. The lengths of two operands
add up in their sum. No other operation gives anything longer than its operands, or than the limit
for repetitions.
-/

namespace SchemaGuard

open Outcome

namespace Value

/-- No text, list or table in a value is longer than a limit, and no name of a table is. -/
inductive Within (limit : Nat) : Value → Prop
  | null : Within limit .null
  | bool (b : Bool) : Within limit (.bool b)
  | int (i : Int) : Within limit (.int i)
  | float (x : Binary64) : Within limit (.float x)
  | str {s : String} (hlength : s.length ≤ limit) : Within limit (.str s)
  | list {items : List Value} (hlength : items.length ≤ limit)
      (hitems : ∀ item ∈ items, Within limit item) : Within limit (.list items)
  | dict {entries : List (String × Value)} (hlength : entries.length ≤ limit)
      (hnames : ∀ entry ∈ entries, entry.1.length ≤ limit)
      (hvalues : ∀ entry ∈ entries, Within limit entry.2) : Within limit (.dict entries)

variable {limit limit' : Nat} {value : Value} {items result : List Value}

theorem Within.mono (hvalue : value.Within limit) (hle : limit ≤ limit') : value.Within limit' := by
  induction hvalue with
  | null => exact .null
  | bool b => exact .bool b
  | int i => exact .int i
  | float x => exact .float x
  | str hlength => exact .str (Nat.le_trans hlength hle)
  | list hlength _ ih => exact .list (Nat.le_trans hlength hle) ih
  | dict hlength hnames _ ih =>
      exact .dict (Nat.le_trans hlength hle)
        (fun entry hentry => Nat.le_trans (hnames entry hentry) hle) ih

@[simp] theorem within_null : null.Within limit := .null

@[simp] theorem within_bool (b : Bool) : (bool b).Within limit := .bool b

@[simp] theorem within_int (i : Int) : (int i).Within limit := .int i

@[simp] theorem within_float (x : Binary64) : (float x).Within limit := .float x

@[simp] theorem within_str {s : String} : (str s).Within limit ↔ s.length ≤ limit :=
  ⟨fun | .str hlength => hlength, .str⟩

theorem within_list : (list items).Within limit ↔
    items.length ≤ limit ∧ ∀ item ∈ items, item.Within limit :=
  ⟨fun | .list hlength hitems => ⟨hlength, hitems⟩, fun ⟨hlength, hitems⟩ => .list hlength hitems⟩

theorem Within.get? {entries : List (String × Value)} (hdict : (Value.dict entries).Within limit)
    {name : String} (hget : Table.get? entries name = some value) : value.Within limit := by
  cases hdict with
  | dict _ _ hvalues => exact hvalues (name, value) (Table.mem_of_get? hget)

/-- What a value is iterated over is no longer than the value. -/
theorem Within.iterate (hvalue : value.Within limit) (hitems : value.iterate? = some items) :
    (Value.list items).Within limit := by
  cases hvalue with
  | null | bool | int | float => cases hitems
  | list hlength hall =>
      cases hitems
      exact .list hlength hall
  | @str s hlength =>
      cases hitems
      rw [← String.length_toList] at hlength
      refine .list (by rwa [List.length_map]) fun item hitem => ?_
      obtain ⟨c, hc, rfl⟩ := List.mem_map.mp hitem
      have hpos := List.length_pos_of_mem hc
      exact .str (by rw [String.length_singleton]; omega)
  | dict hlength hnames =>
      cases hitems
      refine .list (by rwa [List.length_map]) fun item hitem => ?_
      obtain ⟨entry, hentry, rfl⟩ := List.mem_map.mp hitem
      exact .str (hnames entry hentry)

/-- Some of the items of a list, in whatever order. -/
theorem Within.subperm (hitems : (Value.list items).Within limit)
    (hresult : result.Subperm items) : (Value.list result).Within limit := by
  obtain ⟨hlength, hall⟩ := within_list.mp hitems
  exact .list (Nat.le_trans hresult.length_le hlength)
    fun item hitem => hall item (hresult.subset hitem)

end Value

/-- An outcome that is no longer than a limit if it is a value. -/
abbrev YieldsWithin {ε : Type} (limit : Nat) (outcome : Except ε Value) : Prop :=
  Yields (Value.Within limit) outcome

variable {limit : Nat}

theorem YieldsWithin.mono {ε : Type} {limit' : Nat} {outcome : Except ε Value}
    (houtcome : YieldsWithin limit outcome) (hle : limit ≤ limit') :
    YieldsWithin limit' outcome :=
  fun value hvalue => (houtcome value hvalue).mono hle

/-! ## Operators -/

namespace Eval

variable {left right value : Value} {max : Nat}

theorem ofInt_scalar (i : Int) : YieldsWithin 0 (ofInt i) := by
  unfold ofInt
  split <;> simp

theorem ofReal_scalar (x : Option Binary64) : YieldsWithin 0 (ofReal x) := by
  cases x <;> simp [ofReal]

theorem intArithmetic_scalar (op : BinaryOp) (a b : Int) :
    YieldsWithin 0 (intArithmetic op a b) := by
  cases op with
  | add | subtract | multiply | floorDivide => exact ofInt_scalar _
  | divide => exact ofReal_scalar _
  | modulo =>
      rw [intArithmetic, intModulo]
      split
      · exact ofInt_scalar _
      · simp

theorem realArithmetic_scalar (op : BinaryOp) (a b : Binary64) :
    YieldsWithin 0 (realArithmetic op a b) := by
  unfold realArithmetic
  split <;> exact ofReal_scalar _

theorem numArithmetic_scalar (op : BinaryOp) (left right : Num) :
    YieldsWithin 0 (numArithmetic op left right) := by
  unfold numArithmetic
  split
  · exact Yields.error _
  · split
    · exact intArithmetic_scalar op _ _
    · exact realArithmetic_scalar op _ _

theorem arithmetic_of_sequence {op : BinaryOp} {result : Except EvalError Value}
    (hsequence : sequenceArithmetic? max op left right = some result) :
    arithmetic op left right max = result := by
  rw [arithmetic, hsequence]

/-- Operands that are no sequences give a number. -/
theorem arithmetic_scalar {op : BinaryOp} (hnone : sequenceArithmetic? max op left right = none) :
    YieldsWithin 0 (arithmetic op left right max) := by
  rw [arithmetic, hnone]
  dsimp only
  split
  · exact numArithmetic_scalar op _ _
  · exact Yields.error _

theorem negate_scalar (value : Value) : YieldsWithin 0 (negate value) := by
  unfold negate
  split
  · exact ofInt_scalar _
  · simp
  · simp

/-- The lengths of the operands of an addition add up. -/
theorem add_within {limit' : Nat} (hleft : left.Within limit) (hright : right.Within limit') :
    YieldsWithin (limit + limit') (arithmetic .add left right max) := by
  cases hsequence : sequenceArithmetic? max .add left right with
  | none => exact (arithmetic_scalar hsequence).mono (Nat.zero_le _)
  | some result =>
      rw [arithmetic_of_sequence hsequence]
      unfold sequenceArithmetic? at hsequence
      split at hsequence
      next l r _ =>
        cases hsequence
        rw [Value.within_str] at hleft hright
        refine (Yields.ok_iff _).mpr (.str ?_)
        rw [String.length_append]
        exact Nat.add_le_add hleft hright
      next l r _ =>
        cases hsequence
        obtain ⟨hleft, hl⟩ := Value.within_list.mp hleft
        obtain ⟨hright, hr⟩ := Value.within_list.mp hright
        refine (Yields.ok_iff _).mpr (.list ?_ fun item hitem => ?_)
        · rw [List.length_append]
          exact Nat.add_le_add hleft hright
        · rcases List.mem_append.mp hitem with hitem | hitem
          · exact (hl item hitem).mono (Nat.le_add_right _ _)
          · exact (hr item hitem).mono (Nat.le_add_left _ _)
      next hop => cases hop
      next => cases hsequence

theorem repeatList_within {α : Type} (items : List α) (count : Int) (max : Nat) :
    Yields (fun repeated => repeated.length ≤ max ∧ ∀ a ∈ repeated, a ∈ items)
      (repeatList items count max) := by
  unfold repeatList
  dsimp only
  split
  · exact Yields.error _
  next hle =>
    refine (Yields.ok_iff _).mpr ⟨?_, fun a ha => ?_⟩
    · rw [List.length_flatten, List.map_replicate, List.sum_replicate_nat, Nat.mul_comm]
      omega
    · obtain ⟨copy, hcopy, ha⟩ := List.mem_flatten.mp ha
      rwa [List.eq_of_mem_replicate hcopy] at ha

theorem repeatText_within (s : String) (count : Int) (max : Nat) :
    YieldsWithin max (repeatText s count max) := by
  refine (repeatList_within s.toList count max).map fun repeated hrepeated => ?_
  rw [Value.within_str, String.length_ofList]
  exact hrepeated.1

theorem repeatItems_within {items : List Value} (hitems : (Value.list items).Within limit)
    (hmax : max ≤ limit) (count : Int) :
    YieldsWithin limit ((repeatList items count max).map .list) := by
  refine (repeatList_within items count max).map fun repeated hrepeated => ?_
  obtain ⟨hlength, hmem⟩ := hrepeated
  exact .list (Nat.le_trans hlength hmax)
    fun item hitem => (Value.within_list.mp hitems).2 item (hmem item hitem)

/-- A repeated sequence is no longer than the limit for repetitions. -/
theorem multiply_within (hleft : left.Within limit) (hright : right.Within limit)
    (hmax : max ≤ limit) : YieldsWithin limit (arithmetic .multiply left right max) := by
  cases hsequence : sequenceArithmetic? max .multiply left right with
  | none => exact (arithmetic_scalar hsequence).mono (Nat.zero_le _)
  | some result =>
      rw [arithmetic_of_sequence hsequence]
      rw [sequenceArithmetic?] at hsequence
      unfold repetition? at hsequence
      split at hsequence
      all_goals first
        | cases hsequence
        | rw [Option.ite_none_right_eq_some] at hsequence
          obtain ⟨_, hsequence⟩ := hsequence
          cases hsequence
      · exact (repeatText_within _ _ max).mono hmax
      · exact (repeatText_within _ _ max).mono hmax
      · exact repeatItems_within hleft hmax _
      · exact repeatItems_within hright hmax _

/-- The other operations are on numbers only. -/
theorem arithmetic_scalar_of_ne {op : BinaryOp} (hadd : op ≠ .add) (hmultiply : op ≠ .multiply) :
    YieldsWithin 0 (arithmetic op left right max) := by
  apply arithmetic_scalar
  cases op with
  | add => exact absurd rfl hadd
  | multiply => exact absurd rfl hmultiply
  | _ => simp only [sequenceArithmetic?]

theorem readAttribute_within (hvalue : value.Within limit) (name : String) :
    YieldsWithin limit (readAttribute value name) := by
  unfold readAttribute
  dsimp only
  split
  · split
    next inner hget => exact (Yields.ok_iff _).mpr (hvalue.get? hget)
    next => exact Yields.error _
  · exact Yields.error _

theorem elementAt_mem {α : Type} (items : List α) (index : Int) :
    Yields (· ∈ items) (elementAt items index) := by
  unfold elementAt
  extract_lets place
  split
  · exact Yields.error _
  · split
    next item hitem => exact (Yields.ok_iff _).mpr (List.mem_of_getElem? hitem)
    next => exact Yields.error _

theorem readIndex_within (hvalue : value.Within limit) (position : Value) :
    YieldsWithin limit (readIndex value position) := by
  unfold readIndex
  dsimp only
  split
  next items i =>
    split
    · exact fun item hitem =>
        (Value.within_list.mp hvalue).2 item (elementAt_mem items i item hitem)
    · exact Yields.error _
  next s i =>
    split
    · refine (elementAt_mem s.toList i).map fun c hc => ?_
      have hpos := List.length_pos_of_mem hc
      rw [String.length_toList] at hpos
      rw [Value.within_str] at hvalue ⊢
      rw [String.length_singleton]
      omega
    · exact Yields.error _
  next entries name =>
    split
    next inner hget => exact (Yields.ok_iff _).mpr (hvalue.get? hget)
    next => exact Yields.error _
  next => exact Yields.error _

end Eval

end SchemaGuard
