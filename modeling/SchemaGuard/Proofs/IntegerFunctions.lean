import SchemaGuard.Function.Library
import SchemaGuard.Proofs.Constraint.Bounds
import SchemaGuard.Proofs.Sorting

/-! # Functions on integers

Conversion, absolute value, sum, least and greatest value of integers of 64 bits are exact, or
overflow where the exact result needs more bits. Rounding is the exception: it takes the nearest
floating point number, so it moves every integer that has more digits than such a number, apart from
the greatest one, to which what lies beyond the range is brought back.
-/

namespace SchemaGuard

open Outcome

/-! ## Integers among the floating point numbers -/

namespace Binary64

/-- An integer that is the exact value of a number. -/
def Represented (i : Int) : Prop :=
  ∃ x : Binary64, x.units = i * unitsPerOne

/-- Integers are rounded to whole numbers. -/
theorem unitsPerOne_dvd_nearest (n : Nat) : unitsPerOne ∣ nearest n := by
  have hrounded := unitsPerOne_dvd_rounded n Nat.one_pos
  rw [Nat.mul_one] at hrounded
  rw [nearest, Nat.min_def]
  split
  · exact hrounded
  · exact unitsPerOne_dvd_largestMagnitude

theorem units_ofInt_roundEven (i : Int) :
    (ofInt i).units = (ofInt i).roundEven * unitsPerOne := by
  have hdvd : unitsPerOne ∣ (ofInt i).magnitude := by
    rw [(ofInt_parts i).2]
    exact unitsPerOne_dvd_nearest _
  have hwhole : (ofInt i).magnitude =
      halfEven (ofInt i).magnitude unitsPerOne * unitsPerOne := by
    rw [halfEven_of_dvd hdvd, Nat.div_mul_cancel hdvd]
  unfold units roundEven
  generalize unitsPerOne = one at hwhole ⊢
  dsimp only
  split
  · rw [Int.neg_mul, ← Int.natCast_mul, ← hwhole]
  · rw [← Int.natCast_mul, ← hwhole]

/-- Rounding keeps exactly the integers that are numbers as they are. -/
theorem represented_iff {i : Int} : Represented i ↔ (ofInt i).roundEven = i := by
  have hone : (unitsPerOne : Int) ≠ 0 := Int.natCast_ne_zero.mpr unitsPerOne_pos.ne'
  constructor
  · rintro ⟨x, hx⟩
    have hmagnitude : x.magnitude = i.natAbs * unitsPerOne := by
      rw [← natAbs_units, hx, Int.natAbs_mul, Int.natAbs_natCast]
    have hnearest : nearest i.natAbs = i.natAbs * unitsPerOne := by
      rw [nearest, ← hmagnitude, rounded_magnitude, Nat.min_eq_left (magnitude_le x)]
    have hunits := units_ofInt_of_nearest hnearest
    rw [units_ofInt_roundEven] at hunits
    exact Int.eq_of_mul_eq_mul_right hone hunits
  · intro hround
    exact ⟨ofInt i, by rw [units_ofInt_roundEven, hround]⟩

/-- The least integer of 64 bits is a number, and the greatest one is rounded to the end of the
range. -/
theorem represented_least : Represented (-0x8000000000000000) :=
  ⟨ofInt (-0x8000000000000000), by decide +kernel⟩

theorem roundEven_greatest : (ofInt 0x7fffffffffffffff).roundEven = 0x8000000000000000 := by
  have hunits : (ofInt 0x7fffffffffffffff).units = 0x8000000000000000 * unitsPerOne := by
    decide +kernel
  have hone : (unitsPerOne : Int) ≠ 0 := Int.natCast_ne_zero.mpr unitsPerOne_pos.ne'
  rw [units_ofInt_roundEven] at hunits
  exact Int.eq_of_mul_eq_mul_right hone hunits

theorem nearest_eq_rounded {n : Nat} (hn : n ≤ 2 ^ 63) :
    nearest n = rounded (n * unitsPerOne) 1 := by
  have hlarge : 2 * (2 ^ 63 * unitsPerOne) + 1 ≤ largestMagnitude := by
    have hones : 2 ^ 64 * unitsPerOne < largestMagnitude := mul_unitsPerOne_lt (by decide)
    omega
  have hrounded : rounded (n * unitsPerOne) 1 ≤ 2 * (2 ^ 63 * unitsPerOne) + 1 := by
    refine rounded_le Nat.one_pos ?_
    rw [Nat.mul_one]
    exact Nat.mul_le_mul_right _ hn
  exact Nat.min_eq_left (Nat.le_trans hrounded hlarge)

/-- Rounding moves an integer by the last of its first 53 bits at most. -/
theorem roundEven_ofInt_near {i : Int} (hi : i.natAbs ≤ 2 ^ 63) :
    2 ^ 53 * ((ofInt i).roundEven - i).natAbs ≤ i.natAbs := by
  obtain ⟨whole, hwhole⟩ := unitsPerOne_dvd_nearest i.natAbs
  have hhalf : 2 ^ 52 < unitsPerOne := Nat.lt_of_lt_of_le (by decide) pow_le_unitsPerOne
  have hpos : (0 : Int) < unitsPerOne := Int.natCast_pos.mpr unitsPerOne_pos
  have hunits := units_ofInt_roundEven i
  obtain ⟨hlow, hhigh⟩ := rounded_near (i.natAbs * unitsPerOne) Nat.one_pos
  rw [units_ofInt, hwhole] at hunits
  rw [← nearest_eq_rounded hi, hwhole] at hlow hhigh
  generalize (ofInt i).roundEven = result at hunits ⊢
  generalize unitsPerOne = one at *
  have hbelow : 2 ^ 53 * i.natAbs < 2 ^ 53 * whole + i.natAbs + 1 := by
    refine Nat.lt_of_mul_lt_mul_right (a := one) ?_
    rw [Nat.add_mul, Nat.add_mul, Nat.mul_assoc, Nat.mul_assoc, Nat.mul_comm whole]
    omega
  have habove : 2 ^ 53 * whole < 2 ^ 53 * i.natAbs + i.natAbs + 1 := by
    refine Nat.lt_of_mul_lt_mul_right (a := one) ?_
    rw [Nat.add_mul, Nat.add_mul, Nat.mul_assoc, Nat.mul_assoc, Nat.mul_comm whole]
    omega
  have hresult : result = if i < 0 then -(whole : Int) else whole := by
    refine Int.eq_of_mul_eq_mul_right hpos.ne' ?_
    rw [← hunits]
    split
    · rw [Int.natCast_mul, Int.neg_mul, Int.mul_comm]
    · rw [Int.natCast_mul, Int.mul_comm]
  rw [hresult]
  split <;> omega

end Binary64

namespace Int64Range

/-- An integer is brought back to one that is in range if it is that one, or beyond it where the
range ends. -/
theorem clamp_eq_iff {r n : Int} (hn : holds n = true) :
    clamp r = n ↔ r = n ∨ n = 0x7fffffffffffffff ∧ n < r ∨ n = -0x8000000000000000 ∧ r < n := by
  rw [holds_iff] at hn
  unfold clamp
  omega

theorem clamp_near {r n : Int} (hn : holds n = true) : (clamp r - n).natAbs ≤ (r - n).natAbs := by
  rw [holds_iff] at hn
  unfold clamp
  omega

end Int64Range

namespace Function

variable {n start : Int} {items : List Int}

/-! ## One integer -/

theorem int_exact (hn : Int64Range.holds n = true) : int [.int n] = .ok (.int n) := by
  simp only [int, integerFrom?, Value.int64?_int hn]

/-- The absolute value of an integer is exact or too great. -/
theorem abs_exact (hn : Int64Range.holds n = true) :
    abs [.int n] = if Int64Range.holds n.natAbs then .ok (.int n.natAbs)
      else .error (.badArgument "abs" "integer overflow") := by
  -- The ends of the range are too large for the check to be unfolded.
  obtain ⟨check, hcheck⟩ : ∃ check, check = Int64Range.check? := ⟨_, rfl⟩
  have hsize : check n.natAbs =
      if Int64Range.holds n.natAbs then some (n.natAbs : Int) else none := by
    rw [hcheck, Int64Range.check?]
  rw [abs, Value.int64?_int hn, ← hcheck]
  simp only [hsize]
  by_cases hholds : Int64Range.holds n.natAbs = true
  · simp only [if_pos hholds]
  · simp only [if_neg hholds]

/-- An integer is rounded to itself if it is a floating point number as it is, or the end of the
range, and to an integer nearby in any case. -/
theorem round_exact_iff (hn : Int64Range.holds n = true) :
    ∃ result, round [.int n] = .ok (.int result) ∧
      (result = n ↔ Binary64.Represented n ∨ n = 0x7fffffffffffffff) ∧
      2 ^ 53 * (result - n).natAbs ≤ n.natAbs := by
  have hbounds := Int64Range.holds_iff.mp hn
  refine ⟨Int64Range.clamp (Binary64.ofInt n).roundEven, rfl, ?_, ?_⟩
  · rw [Int64Range.clamp_eq_iff hn, ← Binary64.represented_iff]
    constructor
    · rintro (hrepresented | ⟨rfl, -⟩ | ⟨rfl, -⟩)
      · exact .inl hrepresented
      · exact .inr rfl
      · exact .inl Binary64.represented_least
    · rintro (hrepresented | rfl)
      · exact .inl hrepresented
      · right
        left
        rw [Binary64.roundEven_greatest]
        decide
  · have hnear := Binary64.roundEven_ofInt_near (i := n) (by omega)
    have hclamp := Int64Range.clamp_near (r := (Binary64.ofInt n).roundEven) hn
    omega

/-! ## Sums -/

/-- Sums from a start that stay in the range of integers all along. -/
def SumsFit (start : Int) (items : List Int) : Prop :=
  ∀ k, Int64Range.holds (start + (items.take k).sum) = true

theorem sumsFit_cons {item : Int} : SumsFit start (item :: items) ↔
    Int64Range.holds start = true ∧ SumsFit (start + item) items := by
  constructor
  · intro hfit
    refine ⟨by simpa using hfit 0, fun k => ?_⟩
    have hnext := hfit (k + 1)
    rwa [List.take_succ_cons, List.sum_cons, ← Int.add_assoc] at hnext
  · rintro ⟨hstart, hfit⟩ k
    cases k with
    | zero => simpa using hstart
    | succ k =>
        rw [List.take_succ_cons, List.sum_cons, ← Int.add_assoc]
        exact hfit k

theorem add_exact {total item : Int} (hitem : Int64Range.holds item = true) :
    (Total.exact total).add (.int item) =
      if Int64Range.holds (total + item) then .ok (.exact (total + item))
      else .error (.badArgument "sum" "integer overflow") := by
  unfold Total.add
  simp only [Value.int64?_int hitem]
  by_cases hholds : Int64Range.holds (total + item) = true
  · rw [Int64Range.check?, if_pos hholds, if_pos hholds]
  · rw [Int64Range.check?, if_neg hholds, if_neg hholds]

open Classical in
/-- A running sum of integers is the exact one until it leaves the range. -/
theorem foldlM_add_exact (hstart : Int64Range.holds start = true)
    (hitems : ∀ i ∈ items, Int64Range.holds i = true) :
    (items.map Value.int).foldlM Total.add (.exact start) =
      if SumsFit start items then .ok (.exact (start + items.sum))
      else .error (.badArgument "sum" "integer overflow") := by
  induction items generalizing start with
  | nil =>
      have hfit : SumsFit start [] := fun k => by simpa using hstart
      rw [if_pos hfit, List.sum_nil, Int.add_zero]
      rfl
  | cons item rest ih =>
      obtain ⟨hitem, hrest⟩ := List.forall_mem_cons.mp hitems
      rw [List.map_cons, List.foldlM_cons, add_exact hitem, List.sum_cons, ← Int.add_assoc]
      by_cases hnext : Int64Range.holds (start + item) = true
      · rw [if_pos hnext, ok_bind, ih hnext hrest]
        simp only [sumsFit_cons, hstart, true_and]
      · have hfit : ¬ SumsFit start (item :: rest) := by
          intro hfit
          have hfirst := (sumsFit_cons.mp hfit).2 0
          exact hnext (by simpa using hfirst)
        rw [if_neg hnext, if_neg hfit]
        rfl

theorem startOfSum_int (hstart : Int64Range.holds start = true) :
    startOfSum (.int start) = .exact start := by
  rw [startOfSum, Value.integer?, Int64Range.check?, if_pos hstart, Option.getD_some]
  intro x hfloat
  cases hfloat

theorem sum_exact (hstart : Int64Range.holds start = true)
    (hitems : ∀ i ∈ items, Int64Range.holds i = true) (hfit : SumsFit start items) :
    sum [.list (items.map .int), .int start] = .ok (.int (start + items.sum)) := by
  rw [sum, sumFrom, startOfSum_int hstart, itemsOf, Value.iterate?, ok_bind,
    foldlM_add_exact hstart hitems, if_pos hfit, ok_bind]
  rfl

theorem sum_overflow (hstart : Int64Range.holds start = true)
    (hitems : ∀ i ∈ items, Int64Range.holds i = true) (hfit : ¬ SumsFit start items) :
    sum [.list (items.map .int), .int start] =
      .error (.badArgument "sum" "integer overflow") := by
  rw [sum, sumFrom, startOfSum_int hstart, itemsOf, Value.iterate?, ok_bind,
    foldlM_add_exact hstart hitems, if_neg hfit]
  rfl

theorem sum_from_zero (collection : Value) : sum [collection] = sum [collection, .int 0] := by
  rw [sum, sum, startOfSum_int (by decide)]

/-! ## Extremes -/

/-- Of two integers of which the second does not come before a third, the first does not either
unless it comes before the second. -/
theorem compare_ne_trans {before : Ordering} {i j k : Int} (hbefore : before ≠ .eq)
    (hij : compare i j ≠ before) (hjk : compare j k ≠ before) : compare i k ≠ before := by
  cases before with
  | eq => exact absurd rfl hbefore
  | lt =>
      rw [Ne, compare_lt_iff_lt] at *
      omega
  | gt =>
      rw [Ne, compare_gt_iff_gt] at *
      omega

/-- The extreme of integers is one of them that no other one comes before. -/
theorem extremumFrom_exact {function : String} {before : Ordering} {best : Int}
    (hbefore : before ≠ .eq) (hitems : ∀ i ∈ best :: items, Int64Range.holds i = true) :
    ∃ extreme ∈ best :: items,
      extremumFrom function before (.int best) (items.map .int) = .ok (.int extreme) ∧
        ∀ i ∈ best :: items, compare i extreme ≠ before := by
  have hself (i : Int) : compare i i ≠ before := by
    rw [compare_eq_iff_eq.mpr rfl]
    exact hbefore.symm
  induction items generalizing best with
  | nil =>
      refine ⟨best, List.mem_cons_self, rfl, ?_⟩
      simp only [List.mem_singleton, forall_eq]
      exact hself best
  | cons item rest ih =>
      obtain ⟨hbest, hitem, hrest⟩ := by simpa only [List.forall_mem_cons] using hitems
      rw [List.map_cons, Value.extremumFrom_cons (Value.order?_int hitem hbest)]
      by_cases horder : compare item best = before
      · have hkept : compare best item ≠ before := by
          intro hback
          rw [← Int.compare_swap, horder] at hback
          cases before <;> simp_all
        obtain ⟨extreme, hmem, hresult, hextreme⟩ := ih (List.forall_mem_cons.mpr ⟨hitem, hrest⟩)
        rw [if_pos horder]
        refine ⟨extreme, List.mem_cons_of_mem _ hmem, hresult, ?_⟩
        refine List.forall_mem_cons.mpr ⟨?_, hextreme⟩
        exact compare_ne_trans hbefore hkept (hextreme item List.mem_cons_self)
      · obtain ⟨extreme, hmem, hresult, hextreme⟩ := ih (List.forall_mem_cons.mpr ⟨hbest, hrest⟩)
        obtain ⟨hfirst, hothers⟩ := List.forall_mem_cons.mp hextreme
        rw [if_neg horder]
        refine ⟨extreme, ?_, hresult, ?_⟩
        · grind
        · refine List.forall_mem_cons.mpr ⟨hfirst, List.forall_mem_cons.mpr ⟨?_, hothers⟩⟩
          exact compare_ne_trans hbefore horder hfirst

theorem extremum_exact {function : String} {before : Ordering} (hbefore : before ≠ .eq)
    (hne : items ≠ []) (hitems : ∀ i ∈ items, Int64Range.holds i = true) :
    ∃ extreme ∈ items, extremum function before [.list (items.map .int)] = .ok (.int extreme) ∧
      ∀ i ∈ items, compare i extreme ≠ before := by
  cases items with
  | nil => exact absurd rfl hne
  | cons first rest =>
      obtain ⟨extreme, hmem, hresult, hextreme⟩ := extremumFrom_exact hbefore hitems
      exact ⟨extreme, hmem, (Value.extremum_of_items rfl).trans hresult, hextreme⟩

theorem min_exact (hne : items ≠ []) (hitems : ∀ i ∈ items, Int64Range.holds i = true) :
    ∃ least ∈ items, extremum "min" .lt [.list (items.map .int)] = .ok (.int least) ∧
      ∀ i ∈ items, least ≤ i := by
  obtain ⟨least, hmem, hresult, hleast⟩ :=
    extremum_exact (show Ordering.lt ≠ .eq by decide) hne hitems
  exact ⟨least, hmem, hresult, fun i hi =>
    Int.not_lt.mp (mt compare_lt_iff_lt.mpr (hleast i hi))⟩

theorem max_exact (hne : items ≠ []) (hitems : ∀ i ∈ items, Int64Range.holds i = true) :
    ∃ greatest ∈ items, extremum "max" .gt [.list (items.map .int)] = .ok (.int greatest) ∧
      ∀ i ∈ items, i ≤ greatest := by
  obtain ⟨greatest, hmem, hresult, hgreatest⟩ :=
    extremum_exact (show Ordering.gt ≠ .eq by decide) hne hitems
  exact ⟨greatest, hmem, hresult, fun i hi =>
    Int.not_lt.mp (mt compare_gt_iff_gt.mpr (hgreatest i hi))⟩

/-! ## The library's functions -/

/-- Functions of the library are exact on integers of 64 bits or overflow: a sum just if a partial
sum leaves the range. Rounding alone goes by floating point numbers. It keeps the integers that are
such numbers and the end of the range, and misses every other one, by the last of its first 53 bits
at most. -/
theorem builtin_integers (hn : Int64Range.holds n = true) (hstart : Int64Range.holds start = true)
    (hitems : ∀ i ∈ items, Int64Range.holds i = true) :
    Registry.builtin.call "int" [.int n] = .ok (.int n) ∧
      Registry.builtin.call "abs" [.int n] =
        (if Int64Range.holds n.natAbs then .ok (.int n.natAbs)
          else .error (.badArgument "abs" "integer overflow")) ∧
      (∃ result, Registry.builtin.call "round" [.int n] = .ok (.int result) ∧
        (result = n ↔ Binary64.Represented n ∨ n = 0x7fffffffffffffff) ∧
        2 ^ 53 * (result - n).natAbs ≤ n.natAbs) ∧
      (SumsFit start items →
        Registry.builtin.call "sum" [.list (items.map .int), .int start] =
          .ok (.int (start + items.sum))) ∧
      (¬ SumsFit start items →
        Registry.builtin.call "sum" [.list (items.map .int), .int start] =
          .error (.badArgument "sum" "integer overflow")) ∧
      Registry.builtin.call "sum" [.list (items.map .int)] =
        Registry.builtin.call "sum" [.list (items.map .int), .int 0] ∧
      (items ≠ [] →
        (∃ least ∈ items,
          Registry.builtin.call "min" [.list (items.map .int)] = .ok (.int least) ∧
            ∀ i ∈ items, least ≤ i) ∧
        ∃ greatest ∈ items,
          Registry.builtin.call "max" [.list (items.map .int)] = .ok (.int greatest) ∧
            ∀ i ∈ items, i ≤ greatest) :=
  ⟨int_exact hn, abs_exact hn, round_exact_iff hn, sum_exact hstart hitems,
    sum_overflow hstart hitems, sum_from_zero _, fun hne => ⟨min_exact hne hitems, max_exact hne hitems⟩⟩

theorem round_moves_integer :
    (∃ result, Registry.builtin.call "round" [.int 9007199254740993] = .ok (.int result) ∧
      result ≠ 9007199254740993) ∧
      Registry.builtin.call "sum" [.list [.int 1, .int (-1)], .int 0x7fffffffffffffff] =
        .error (.badArgument "sum" "integer overflow") ∧
      ∃ least ∈ [1, -1], Registry.builtin.call "min" [.list [.int 1, .int (-1)]] =
        .ok (.int least) ∧ ∀ i ∈ [1, -1], least ≤ i := by
  obtain ⟨-, -, ⟨result, hround, hexact, -⟩, -, hoverflow, -, hextremes⟩ :=
    @builtin_integers 9007199254740993 0x7fffffffffffffff [1, -1]
      (by decide) (by decide) (by decide)
  refine ⟨⟨result, hround, ?_⟩, hoverflow ?_, (hextremes (by decide)).1⟩
  · rw [Ne, hexact, Binary64.represented_iff]
    decide +kernel
  · intro hfit
    exact absurd (hfit 1) (by decide)

end Function

end SchemaGuard
