import Mathlib.Algebra.Order.BigOperators.Group.List
import Mathlib.Algebra.Order.Group.Nat
import SchemaGuard.Eval.Run
import SchemaGuard.Proofs.FunctionWidths
import SchemaGuard.Proofs.Program.Uses

/-! # How long the value of an expression is

An expression takes its value from its literals, the variables that it reads and the sequences that
it repeats. It can be longer than these by a factor, which counts the operands of additions and the
growth by functions, unless it calls a function whose results have no factor.
-/

namespace SchemaGuard

open Outcome

/-! ## Sizes -/

mutual

/-- The number of characters and items in a value, those of nested values included. -/
def Value.size : Value → Nat
  | .null | .bool _ | .int _ | .float _ => 0
  | .str s => s.length
  | .list items => items.length + sizeOfItems items
  | .dict entries => entries.length + sizeOfEntries entries

/-- The sizes of values, added up. -/
def Value.sizeOfItems : List Value → Nat
  | [] => 0
  | item :: rest => item.size + sizeOfItems rest

/-- The sizes of the names and values of a table, added up. -/
def Value.sizeOfEntries : List (String × Value) → Nat
  | [] => 0
  | (name, value) :: rest => name.length + value.size + sizeOfEntries rest

end

/-- The number of characters and items in the values of a scope. -/
def Scope.size (scope : Scope) : Nat :=
  (scope.map fun entry => entry.2.size).sum

mutual

/-- The number of characters and items in the literals of an expression. -/
def Expr.literalSize : Expr → Nat
  | .null | .bool _ | .int _ | .float _ | .var _ | .path _ => 0
  | .str s => s.length
  | .list items => items.length + literalSizeOfList items
  | .binary _ l r | .and l r | .or l r | .index l r => l.literalSize + r.literalSize
  | .compare first links => first.literalSize + literalSizeOfLinks links
  | .negate e | .not e | .attr e _ => e.literalSize
  | .call callee args => callee.literalSize + literalSizeOfList args
  | .cond c t e => c.literalSize + (t.literalSize + e.literalSize)

/-- The literal sizes of expressions, added up. -/
def Expr.literalSizeOfList : List Expr → Nat
  | [] => 0
  | e :: rest => e.literalSize + literalSizeOfList rest

/-- The literal sizes of the further operands of a comparison, added up. -/
def Expr.literalSizeOfLinks : List (CompareOp × Expr) → Nat
  | [] => 0
  | (_, e) :: rest => e.literalSize + literalSizeOfLinks rest

end

mutual

theorem Value.within_size {limit : Nat} : ∀ (value : Value), value.size ≤ limit → value.Within limit
  | .null, _ => .null
  | .bool b, _ => .bool b
  | .int i, _ => .int i
  | .float x, _ => .float x
  | .str s, hsize => .str hsize
  | .list items, hsize => by
      rw [size] at hsize
      exact .list (by omega) (within_sizeOfItems items (by omega))
  | .dict entries, hsize => by
      rw [size] at hsize
      have hentries : sizeOfEntries entries ≤ limit := by omega
      obtain ⟨hnames, hvalues⟩ := within_sizeOfEntries entries hentries
      exact .dict (by omega) hnames hvalues

theorem Value.within_sizeOfItems {limit : Nat} :
    ∀ (items : List Value), sizeOfItems items ≤ limit → ∀ item ∈ items, item.Within limit
  | [], _ => by simp
  | item :: rest, hsize => by
      rw [sizeOfItems] at hsize
      exact List.forall_mem_cons.mpr
        ⟨within_size item (by omega), within_sizeOfItems rest (by omega)⟩

theorem Value.within_sizeOfEntries {limit : Nat} :
    ∀ (entries : List (String × Value)), sizeOfEntries entries ≤ limit →
      (∀ entry ∈ entries, entry.1.length ≤ limit) ∧ ∀ entry ∈ entries, entry.2.Within limit
  | [], _ => by simp
  | (name, value) :: rest, hsize => by
      rw [sizeOfEntries] at hsize
      have hrest : sizeOfEntries rest ≤ limit := by omega
      obtain ⟨hnames, hvalues⟩ := within_sizeOfEntries rest hrest
      exact ⟨List.forall_mem_cons.mpr ⟨by show name.length ≤ limit; omega, hnames⟩,
        List.forall_mem_cons.mpr ⟨within_size value (by omega), hvalues⟩⟩

end

/-- The values of a scope are within limits that depend on their names. -/
def Scope.Within (bound : String → Nat) (scope : Scope) : Prop :=
  ∀ name value, Table.get? scope name = some value → value.Within (bound name)

namespace Scope.Within

variable {bound bound' : String → Nat} {scope : Scope}

theorem mono (hscope : scope.Within bound) (hle : ∀ name, bound name ≤ bound' name) :
    scope.Within bound' :=
  fun name value hget => (hscope name value hget).mono (hle name)

theorem insert (hscope : scope.Within bound) {name : String} {value : Value}
    (hvalue : value.Within (bound name)) :
    Scope.Within bound (Table.insert scope name value) := by
  intro other found hget
  rw [Table.get?_insert] at hget
  split at hget
  next heq =>
    cases hget
    rwa [← heq]
  next => exact hscope other found hget

theorem of_size {limit : Nat} (hsize : scope.size ≤ limit) (hle : ∀ name, limit ≤ bound name) :
    scope.Within bound := by
  intro name value hget
  have hmem := List.mem_map_of_mem (f := fun entry : String × Value => entry.2.size)
    (Table.mem_of_get? hget)
  have hvalue : value.size ≤ scope.size := List.le_sum_of_mem hmem
  exact (value.within_size (Nat.le_trans hvalue hsize)).mono (hle name)

end Scope.Within

/-! ## Expressions -/

/-- How many times longer the result of an operation can be, given the factors of its operands. -/
def BinaryOp.factor (op : BinaryOp) (left right : Nat) : Nat :=
  match op with
  | .add => left + right
  | .multiply => max 1 (max left right)
  | .subtract | .divide | .floorDivide | .modulo => 1

mutual

/-- How many times longer the value of an expression can be than its literals, the variables that it
reads and the sequences that it repeats. -/
def Expr.factor : Expr → Nat
  | .null | .bool _ | .int _ | .float _ | .str _ | .var _ | .path _ => 1
  | .compare _ _ | .negate _ | .not _ => 1
  | .list items => factorOfList items
  | .binary op left right => op.factor left.factor right.factor
  | .and left right | .or left right | .cond _ left right => max left.factor right.factor
  | .attr object _ | .index object _ => object.factor
  | .call (.var name) args => Function.growth name * factorOfList args
  | .call (.attr object name) args =>
      Function.growth name * max object.factor (factorOfList args)
  | .call _ _ => 1

/-- The greatest factor of expressions. -/
def Expr.factorOfList : List Expr → Nat
  | [] => 1
  | e :: rest => max e.factor (factorOfList rest)

end

/-- None of the functions whose results have no factor is called. -/
def Use.Linear (uses : List Use) : Prop :=
  ∀ name ∈ Function.superlinear, .calls name ∉ uses ∧ .invokes name ∉ uses

instance (uses : List Use) : Decidable (Use.Linear uses) :=
  inferInstanceAs (Decidable (∀ name ∈ Function.superlinear,
    .calls name ∉ uses ∧ .invokes name ∉ uses))

/-- The two operands of an expression that appends one to the other. -/
inductive Expr.Appends (left right : Expr) : Expr → Prop
  | add : Appends left right (.binary .add left right)
  | union : Appends left right (.call (.var "union") [left, right])
  | method : Appends left right (.call (.attr left "union") [right])

theorem Expr.factorOfList_pos (items : List Expr) : 0 < factorOfList items := by
  induction items with
  | nil => exact Nat.one_pos
  | cons e rest ih => exact Nat.lt_of_lt_of_le ih (Nat.le_max_right _ _)

theorem Expr.factor_le_of_mem {e : Expr} {items : List Expr} (he : e ∈ items) :
    e.factor ≤ factorOfList items := by
  induction items with
  | nil => cases he
  | cons first rest ih =>
      rcases List.mem_cons.mp he with rfl | hrest
      · exact Nat.le_max_left _ _
      · exact Nat.le_trans (ih hrest) (Nat.le_max_right _ _)

theorem Value.Within.max_left {value : Value} {limit factor factor' : Nat}
    (hvalue : value.Within (factor * limit)) : value.Within (max factor factor' * limit) :=
  hvalue.mono (Nat.mul_le_mul_right _ (Nat.le_max_left _ _))

theorem Value.Within.max_right {value : Value} {limit factor factor' : Nat}
    (hvalue : value.Within (factor' * limit)) : value.Within (max factor factor' * limit) :=
  hvalue.mono (Nat.mul_le_mul_right _ (Nat.le_max_right _ _))

namespace Eval

variable {ev : Evaluator} {scope : Scope} {limit : Nat} {uses uses' : List Use} {size size' : Nat}

/-- A limit for what the value of an expression is made from, given the uses and the literal size of
the expression: its literals, the variables that it reads and the sequences that it repeats. -/
structure Fits (ev : Evaluator) (scope : Scope) (limit : Nat) (uses : List Use) (size : Nat) :
    Prop where
  literals : size ≤ limit
  repeated : ev.limits.maxIterations ≤ limit
  pos : 0 < limit
  linear : Use.Linear uses
  reads : ∀ name, .reads name ∈ uses →
    ∀ value, Table.get? scope name = some value → value.Within limit

theorem Fits.mono (hfits : Fits ev scope limit uses size) (huses : ∀ use ∈ uses', use ∈ uses)
    (hsize : size' ≤ size) : Fits ev scope limit uses' size' where
  literals := Nat.le_trans hsize hfits.literals
  repeated := hfits.repeated
  pos := hfits.pos
  linear name hname := by
    obtain ⟨hcalls, hinvokes⟩ := hfits.linear name hname
    exact ⟨fun hmem => hcalls (huses _ hmem), fun hmem => hinvokes (huses _ hmem)⟩
  reads name hname := hfits.reads name (huses _ hname)

theorem resolve_within {name : String} (hfits : Fits ev scope limit uses size)
    (hname : .reads name ∈ uses) : YieldsWithin limit (resolve ev scope name) := by
  refine Yields.bind fun _ _ => ?_
  split
  next value hget => exact (Yields.ok_iff _).mpr (hfits.reads name hname value hget)
  next => exact Yields.error _

theorem followPath_within {value : Value} (hvalue : value.Within limit) (names : List String) :
    YieldsWithin limit (followPath ev value names) := by
  induction names generalizing value with
  | nil => exact (Yields.ok_iff _).mpr hvalue
  | cons name rest ih =>
      exact Yields.bind fun _ _ =>
        (readAttribute_within hvalue name).next fun inner hinner => ih hinner

theorem resolvePath_within {parts : List String}
    (hfits : Fits ev scope limit (Expr.usesOfPath parts) size) :
    YieldsWithin limit (resolvePath ev scope parts) := by
  cases parts with
  | nil => exact (Yields.ok_iff _).mpr .null
  | cons root rest =>
      exact (resolve_within hfits List.mem_cons_self).next
        fun value hvalue => followPath_within hvalue rest

theorem evaluateLinks_scalar (depth : Nat) (links : List (CompareOp × Expr)) (left : Value) :
    YieldsWithin 0 (evaluateLinks ev scope depth left links) := by
  induction links generalizing left with
  | nil =>
      rw [evaluateLinks]
      simp
  | cons link rest ih =>
      rw [evaluateLinks]
      refine Yields.bind fun right _ => Yields.bind fun holds _ => ?_
      split
      · exact ih right
      · simp

/-- No argument of another function than `isinstance` may name a kind. -/
theorem evaluateArgs_eq {function : String} (hfunction : function ≠ "isinstance") (depth : Nat)
    (position : Nat) (args : List Expr) :
    evaluateArgs ev scope depth function position args =
      evaluateList ev scope false depth args := by
  induction args generalizing position with
  | nil => rw [evaluateArgs, evaluateList]
  | cons e rest ih =>
      have hkind : takesKind function position = false := by
        rw [takesKind, beq_false_of_ne hfunction, Bool.false_and]
      rw [evaluateArgs, evaluateList, hkind, ih]

theorem callFunction_within (hbuiltin : ev.functions.call = Registry.builtin.call) {name : String}
    {args : List Value} (hcall : YieldsWithin limit (Registry.builtin.call name args)) :
    YieldsWithin limit (callFunction ev name args) := by
  unfold callFunction
  rw [hbuiltin]
  split
  next value hvalue => exact (Yields.ok_iff _).mpr (hcall value hvalue)
  next => exact Yields.error _

theorem callIsinstance_scalar (args : List Value) :
    YieldsWithin 0 (Registry.builtin.call "isinstance" args) := by
  show YieldsWithin 0 (Function.call ⟨"isinstance", .exactly 2, Function.isinstance⟩ args)
  unfold Function.call
  split
  · exact Yields.error _
  · exact Function.isinstance_scalar args

section Calls

variable (hbuiltin : ev.functions.call = Registry.builtin.call) {name : String}
  (hname : name ∉ Function.superlinear) (hpos : 0 < limit) {args : List Expr}
  (hargs : ∀ depth, Yields (Function.ArgsWithin limit) (evaluateList ev scope false depth args))

include hbuiltin hname hpos hargs

/-- A call lengthens its arguments, of which some may be given, by the factor of the function. -/
theorem callArgs_within {given : List Value} (hgiven : Function.ArgsWithin limit given)
    (depth : Nat) :
    YieldsWithin (Function.growth name * limit) (do
      let values ← evaluateArgs ev scope depth name 0 args
      callFunction ev name (given ++ values)) := by
  by_cases hisinstance : name = "isinstance"
  · subst hisinstance
    exact Yields.bind fun values _ =>
      (callFunction_within hbuiltin (callIsinstance_scalar _)).mono (Nat.zero_le _)
  · rw [evaluateArgs_eq hisinstance]
    refine (hargs depth).next fun values hvalues => callFunction_within hbuiltin ?_
    exact Function.builtin_lengthens hname hpos (List.forall_mem_append.mpr ⟨hgiven, hvalues⟩)

theorem callName_within (depth : Nat) :
    YieldsWithin (Function.growth name * limit)
      (evaluate ev scope false depth (.call (.var name) args)) := by
  rw [evaluate]
  refine Yields.bind fun depth _ => Yields.bind fun _ _ => ?_
  split
  · exact callArgs_within hbuiltin hname hpos hargs (List.forall_mem_nil _) depth
  · exact Yields.error _

theorem callAttr_within {object : Expr}
    (hobject : ∀ depth, YieldsWithin limit (evaluate ev scope false depth object)) (depth : Nat) :
    YieldsWithin (Function.growth name * limit)
      (evaluate ev scope false depth (.call (.attr object name) args)) := by
  rw [evaluate]
  refine Yields.bind fun depth _ => Yields.bind fun _ _ =>
    (hobject depth).next fun receiver hreceiver => ?_
  split
  · exact callArgs_within hbuiltin hname hpos hargs
      (List.forall_mem_singleton.mpr hreceiver) depth
  · exact Yields.error _

end Calls

/-- The result of an operation is no longer than the factor of the operation allows. -/
theorem arithmetic_within {op : BinaryOp} {left right : Value} {factor factor' max : Nat}
    (hleft : left.Within (factor * limit)) (hright : right.Within (factor' * limit))
    (hmax : max ≤ limit) :
    YieldsWithin (op.factor factor factor' * limit) (arithmetic op left right max) := by
  by_cases hadd : op = .add
  · subst hadd
    rw [BinaryOp.factor, Nat.add_mul]
    exact add_within hleft hright
  by_cases hmultiply : op = .multiply
  · subst hmultiply
    have hone := Nat.le_mul_of_pos_left limit (Nat.le_max_left 1 (Nat.max factor factor'))
    exact multiply_within hleft.max_left.max_right hright.max_right.max_right
      (Nat.le_trans hmax hone)
  · exact (arithmetic_scalar_of_ne hadd hmultiply).mono (Nat.zero_le _)

mutual

/-- The value of an expression is no longer than the factor of the expression allows. -/
theorem evaluate_within (hbuiltin : ev.functions.call = Registry.builtin.call) :
    ∀ (e : Expr) (depth : Nat), Fits ev scope limit e.uses e.literalSize →
      YieldsWithin (e.factor * limit) (evaluate ev scope false depth e)
  | .null, _, _ | .bool _, _, _ | .int _, _, _ => by
      rw [evaluate]
      exact Yields.bind fun _ _ => by simp
  | .float x, _, _ => by
      rw [evaluate]
      exact Yields.bind fun _ _ => (ofReal_scalar _).mono (Nat.zero_le _)
  | .str s, _, hfits => by
      have hlength : s.length ≤ limit := hfits.literals
      rw [evaluate, Expr.factor, Nat.one_mul]
      exact Yields.bind fun _ _ => (Yields.ok_iff _).mpr (.str hlength)
  | .var name, _, hfits => by
      rw [evaluate, Expr.factor, Nat.one_mul]
      exact Yields.bind fun _ _ => resolve_within hfits List.mem_cons_self
  | .path parts, _, hfits => by
      rw [evaluate, Expr.factor, Nat.one_mul]
      exact Yields.bind fun _ _ => resolvePath_within hfits
  | .list items, _, hfits => by
      have hlength := hfits.literals
      rw [Expr.literalSize] at hlength
      have hfactor := Nat.le_mul_of_pos_left limit (Expr.factorOfList_pos items)
      rw [evaluate, Expr.factor]
      refine Yields.bind fun depth _ => ?_
      have hitems := evaluateList_within hbuiltin items depth
        (hfits.mono (fun _ => id) (Nat.le_add_left _ _))
      refine hitems.next fun values hvalues => ?_
      exact (Yields.ok_iff _).mpr (.list (by omega) hvalues.2)
  | .binary op left right, _, hfits => by
      rw [evaluate, Expr.factor]
      refine Yields.bind fun depth _ => ?_
      have hleft := evaluate_within hbuiltin left depth
        (hfits.mono (fun _ => List.mem_append_left _) (Nat.le_add_right _ _))
      have hright := evaluate_within hbuiltin right depth
        (hfits.mono (fun _ => List.mem_append_right _) (Nat.le_add_left _ _))
      exact hleft.next fun l hl => hright.next fun r hr =>
        arithmetic_within hl hr hfits.repeated
  | .compare first links, _, _ => by
      rw [evaluate]
      exact Yields.bind fun depth _ => Yields.bind fun left _ =>
        (evaluateLinks_scalar depth links left).mono (Nat.zero_le _)
  | .negate operand, _, _ => by
      rw [evaluate]
      exact Yields.bind fun _ _ => Yields.bind fun value _ =>
        (negate_scalar value).mono (Nat.zero_le _)
  | .not operand, _, _ => by
      rw [evaluate]
      exact Yields.bind fun _ _ => Yields.bind fun _ _ => by simp
  | .and left right, _, hfits => by
      rw [evaluate, Expr.factor]
      refine Yields.bind fun depth _ => ?_
      have hleft := evaluate_within hbuiltin left depth
        (hfits.mono (fun _ => List.mem_append_left _) (Nat.le_add_right _ _))
      have hright := evaluate_within hbuiltin right depth
        (hfits.mono (fun _ => List.mem_append_right _) (Nat.le_add_left _ _))
      refine hleft.next fun l hl => ?_
      split
      · exact fun r hr => (hright r hr).max_right
      · exact (Yields.ok_iff _).mpr (hl.max_left)
  | .or left right, _, hfits => by
      rw [evaluate, Expr.factor]
      refine Yields.bind fun depth _ => ?_
      have hleft := evaluate_within hbuiltin left depth
        (hfits.mono (fun _ => List.mem_append_left _) (Nat.le_add_right _ _))
      have hright := evaluate_within hbuiltin right depth
        (hfits.mono (fun _ => List.mem_append_right _) (Nat.le_add_left _ _))
      refine hleft.next fun l hl => ?_
      split
      · exact (Yields.ok_iff _).mpr (hl.max_left)
      · exact fun r hr => (hright r hr).max_right
  | .attr object name, _, hfits => by
      rw [evaluate, Expr.factor]
      refine Yields.bind fun depth _ => Yields.bind fun _ _ => ?_
      have hobject := evaluate_within hbuiltin object depth
        (hfits.mono (fun _ => List.mem_cons_of_mem _) (Nat.le_refl _))
      exact hobject.next fun value hvalue => readAttribute_within hvalue name
  | .index object position, _, hfits => by
      rw [evaluate, Expr.factor]
      refine Yields.bind fun depth _ => ?_
      have hobject := evaluate_within hbuiltin object depth
        (hfits.mono (fun _ => List.mem_append_left _) (Nat.le_add_right _ _))
      exact hobject.next fun value hvalue =>
        Yields.bind fun index _ => readIndex_within hvalue index
  | .cond condition whenTrue whenFalse, _, hfits => by
      rw [evaluate, Expr.factor]
      refine Yields.bind fun depth _ => Yields.bind fun value _ => ?_
      split
      · refine (evaluate_within hbuiltin whenTrue depth (hfits.mono (fun use huse => ?_) ?_)).mono
          (Nat.mul_le_mul_right _ (Nat.le_max_left _ _))
        · exact List.mem_append_right _ (List.mem_append_left _ huse)
        · rw [Expr.literalSize]
          omega
      · refine (evaluate_within hbuiltin whenFalse depth (hfits.mono (fun use huse => ?_) ?_)).mono
          (Nat.mul_le_mul_right _ (Nat.le_max_right _ _))
        · exact List.mem_append_right _ (List.mem_append_right _ huse)
        · rw [Expr.literalSize]
          omega
  | .call callee args, _, hfits => by
      have hargs := evaluateList_within hbuiltin args
      have hpos := Nat.mul_pos (Expr.factorOfList_pos args) hfits.pos
      cases callee with
      | var name =>
          have hname : name ∉ Function.superlinear :=
            fun hmem => (hfits.linear name hmem).1 List.mem_cons_self
          rw [Expr.factor, Nat.mul_assoc]
          refine callName_within hbuiltin hname hpos (fun depth values hvalues => ?_) _
          have hfits := hfits.mono (fun _ => List.mem_cons_of_mem _) (Nat.le_add_left _ _)
          exact (hargs depth hfits values hvalues).2
      | attr object name =>
          have hname : name ∉ Function.superlinear :=
            fun hmem => (hfits.linear name hmem).2 List.mem_cons_self
          have hpos := Nat.lt_of_lt_of_le hpos (Nat.mul_le_mul_right limit
            (Nat.le_max_right object.factor (Expr.factorOfList args)))
          rw [Expr.factor, Nat.mul_assoc]
          refine callAttr_within hbuiltin hname hpos (fun depth values hvalues value hvalue => ?_)
            (fun depth receiver hreceiver => ?_) _
          · have hfits := hfits.mono
              (fun _ huse => List.mem_cons_of_mem _ (List.mem_append_right _ huse))
              (Nat.le_add_left _ _)
            exact ((hargs depth hfits values hvalues).2 value hvalue).max_right
          · have hfits := hfits.mono
              (fun _ huse => List.mem_cons_of_mem _ (List.mem_append_left _ huse))
              (Nat.le_add_right _ _)
            exact (evaluate_within hbuiltin object depth hfits receiver hreceiver).max_left
      | _ =>
          rw [evaluate]
          · exact Yields.bind fun _ _ => Yields.bind fun _ _ => Yields.error _
          all_goals
            intros
            contradiction

theorem evaluateList_within (hbuiltin : ev.functions.call = Registry.builtin.call) :
    ∀ (items : List Expr) (depth : Nat),
    Fits ev scope limit (Expr.usesOfList items) (Expr.literalSizeOfList items) →
      Yields (fun values => values.length = items.length ∧
        ∀ value ∈ values, value.Within (Expr.factorOfList items * limit))
        (evaluateList ev scope false depth items)
  | [], _, _ => by
      rw [evaluateList]
      simp
  | e :: rest, depth, hfits => by
      have he := evaluate_within hbuiltin e depth
        (hfits.mono (fun _ => List.mem_append_left _) (Nat.le_add_right _ _))
      have hrest := evaluateList_within hbuiltin rest depth
        (hfits.mono (fun _ => List.mem_append_right _) (Nat.le_add_left _ _))
      rw [evaluateList]
      refine he.next fun value hvalue => hrest.next fun values hvalues => ?_
      obtain ⟨hlength, hvalues⟩ := hvalues
      refine (Yields.ok_iff _).mpr ⟨by rw [List.length_cons, List.length_cons, hlength], ?_⟩
      rw [Expr.factorOfList]
      refine List.forall_mem_cons.mpr ⟨?_, fun found hfound => ?_⟩
      · exact hvalue.max_left
      · exact (hvalues found hfound).max_right

end

/-- The lengths of the operands of an expression that appends add up. -/
theorem appends_within (hbuiltin : ev.functions.call = Registry.builtin.call) {limit' : Nat}
    {left right e : Expr} (happends : Expr.Appends left right e)
    (hleft : ∀ depth, YieldsWithin limit (evaluate ev scope false depth left))
    (hright : ∀ depth, YieldsWithin limit' (evaluate ev scope false depth right)) (depth : Nat) :
    YieldsWithin (limit + limit') (evaluate ev scope false depth e) := by
  cases happends with
  | add =>
      rw [evaluate]
      exact Yields.bind fun depth _ => (hleft depth).next fun l hl =>
        (hright depth).next fun r hr => add_within hl hr
  | union =>
      rw [evaluate]
      refine Yields.bind fun depth _ => Yields.bind fun _ _ => ?_
      split
      · rw [evaluateArgs_eq (by decide), evaluateList, evaluateList, evaluateList]
        refine Yields.bind fun values hvalues => ?_
        obtain ⟨l, hl, hvalues⟩ := bind_eq_ok.mp hvalues
        obtain ⟨rest, hrest, hvalues⟩ := bind_eq_ok.mp hvalues
        obtain ⟨r, hr, hrest⟩ := bind_eq_ok.mp hrest
        cases hrest
        cases hvalues
        exact callFunction_within hbuiltin
          (Function.union_within (hleft depth l hl) (hright depth r hr))
      · exact Yields.error _
  | method =>
      rw [evaluate]
      refine Yields.bind fun depth _ => Yields.bind fun _ _ => (hleft depth).next fun l hl => ?_
      split
      · rw [evaluateArgs_eq (by decide), evaluateList, evaluateList]
        refine Yields.bind fun values hvalues => ?_
        obtain ⟨r, hr, hvalues⟩ := bind_eq_ok.mp hvalues
        cases hvalues
        exact callFunction_within hbuiltin (Function.union_within hl (hright depth r hr))
      · exact Yields.error _

end Eval

end SchemaGuard
