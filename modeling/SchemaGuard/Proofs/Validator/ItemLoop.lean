import SchemaGuard.Proofs.Program.Steps
import SchemaGuard.Proofs.Validator.ItemCheck

/-! # Running the check of items

The check takes three steps for each item and one for the loop, and it comes to its end just
when the steps suffice and every item passes: an item that is false, or not of the kind that is
asked for, is refused wherever it stands in the collection.
-/

namespace SchemaGuard

open Outcome Eval

namespace ItemCheck

/-- What the check asks for: the value that is bound under the name of the kind, or the name. -/
def kindIn (scope : Scope) (item : ScalarType) : Value :=
  (Table.get? scope item.name).getD (.str item.name)

/-- An item that is not empty and of a kind. -/
def Passes (kind value : Value) : Prop :=
  value.truthy = true ∧ Function.isinstance [value, kind] = .ok (.bool true)

theorem evaluate_kind {ev : Evaluator} {scope : Scope} {depth : Nat} (item : ScalarType)
    (hdepth : depth + 1 ≤ ev.limits.maxCallDepth) :
    evaluate ev scope true depth (.var item.name) = .ok (kindIn scope item) := by
  have hknown : (Value.null.hasKind? item.name).isSome = true := by cases item <;> rfl
  rw [evaluate, Bool.true_and, namesKind, hknown, Bool.and_true, Table.contains, kindIn]
  cases hvalue : Table.get? scope item.name with
  | none => simp [ev.guard.guarded_checkName (name_permitted item)]
  | some value =>
      simp [enter_eq hdepth, resolve_of_not_denied (name_permitted item), hvalue]

/-- What the built-in `isinstance` answers is a truth value. -/
theorem isinstance_answer {value kind answer : Value}
    (hanswer : Function.isinstance [value, kind] = .ok answer) :
    ∃ b, answer = .bool b := by
  unfold Function.isinstance at hanswer
  split at hanswer
  · obtain ⟨b, _, rfl⟩ := map_eq_ok.mp hanswer
    exact ⟨b, rfl⟩
  · obtain ⟨b, _, rfl⟩ := map_eq_ok.mp hanswer
    exact ⟨b, rfl⟩
  · cases hanswer

section

variable {ev : Evaluator} {scope : Scope} {value : Value}

/-- The built-in `isinstance` is called with the item and with what the check asks for. -/
theorem evaluate_isinstance (hfunctions : ev.functions = Registry.restricted)
    (hdepth : 4 ≤ ev.limits.maxCallDepth) (hvalue : Table.get? scope "item" = some value)
    (item : ScalarType) :
    evaluate ev scope false 1 (.call (.var "isinstance") [.var "item", .var item.name]) =
      match Function.isinstance [value, kindIn scope item] with
      | .ok answer => .ok answer
      | .error cause => .error (.callFailed "isinstance" cause) := by
  have hhas : Registry.restricted.has "isinstance" = true := by decide
  have hget : Table.get? Registry.restricted.functions "isinstance" =
      some ⟨"isinstance", .exactly 2, Function.isinstance⟩ := rfl
  have hitem : evaluate ev scope false 2 (.var "item") = .ok value :=
    evaluate_var (by decide) hvalue (by omega)
  have hkind : evaluate ev scope true 2 (.var item.name) = .ok (kindIn scope item) :=
    evaluate_kind item (by omega)
  have hargs : evaluateArgs ev scope 2 "isinstance" 0 [.var "item", .var item.name] =
      .ok [value, kindIn scope item] := by
    have hfirst : takesKind "isinstance" 0 = false := by decide
    have hsecond : takesKind "isinstance" 1 = true := by decide
    simp only [evaluateArgs, hfirst, hsecond, hitem, hkind, ok_bind, pure_eq_ok]
  rw [evaluate, enter_eq (by omega), ok_bind, ev.guard.guarded_checkName (by decide), ok_bind,
    hfunctions, if_pos hhas, hargs, ok_bind, callFunction, hfunctions, Registry.call, hget]
  rfl

variable {state : State}

/-- One round of the loop. -/
def round (ev : Evaluator) (item : ScalarType) (message : String) (state : State)
    (value : Value) : Except EvalError State := do
  let state ← tick ev.limits state
  executeBlock ev (state.bind "item" value)
    [refuseWhen (.not (.var "item")) emptyItem,
      refuseWhen (.not (.call (.var "isinstance") [.var "item", .var item.name])) message]

theorem kindIn_insert (scope : Scope) (value : Value) (item : ScalarType) :
    kindIn (Table.insert scope "item" value) item = kindIn scope item := by
  have hname : "item" ≠ item.name := by cases item <;> decide
  rw [kindIn, kindIn, Table.get?_insert, if_neg hname]

/-- A round is three steps for an item that passes, and there is no round for another one. -/
theorem round_eq_ok (hfunctions : ev.functions = Registry.restricted)
    (hdepth : 4 ≤ ev.limits.maxCallDepth) {item : ScalarType} {message : String} {next : State} :
    round ev item message state value = .ok next ↔
      Passes (kindIn state.scope item) value ∧ state.steps + 3 ≤ ev.limits.maxIterations ∧
        next = ⟨state.steps + 3, Table.insert state.scope "item" value⟩ := by
  have hitem : Table.get? (Table.insert state.scope "item" value) "item" = some value := by
    rw [Table.get?_insert, if_pos rfl]
  have hvar : evaluate ev (Table.insert state.scope "item" value) false 1 (.var "item") =
      .ok value := evaluate_var (by decide) hitem (by omega)
  have hcall := evaluate_isinstance hfunctions hdepth hitem item
  rw [kindIn_insert] at hcall
  -- The three steps are one for the round and one for each of the two refusals.
  unfold round
  simp only [executeBlock, bind_eq_ok, tick_eq_ok, execute_refuseWhen, State.bind, evaluateIn,
    Except.ok.injEq]
  constructor
  · rintro ⟨_, ⟨_, rfl⟩, _, ⟨⟨_, rfl⟩, empty, hempty, hfalse⟩, _, ⟨⟨hsteps, rfl⟩, other, hother,
      hnone⟩, rfl⟩
    rw [evaluate_not (by omega), hvar] at hempty
    cases hempty
    rw [evaluate_not (by omega), hcall] at hother
    obtain ⟨answer, hanswer, rfl⟩ := map_eq_ok.mp hother
    split at hanswer
    next inner hinstance =>
      cases hanswer
      obtain ⟨b, rfl⟩ := isinstance_answer hinstance
      have htruthy : value.truthy = true := by simpa [Value.truthy] using hfalse
      have hb : b = true := by simpa [Value.truthy] using hnone
      subst hb
      exact ⟨⟨htruthy, hinstance⟩, hsteps, rfl⟩
    next => cases hanswer
  · rintro ⟨⟨htruthy, hkind⟩, hsteps, rfl⟩
    rw [hkind] at hcall
    refine ⟨_, ⟨by omega, rfl⟩, _, ⟨⟨by dsimp only; omega, rfl⟩, .bool (!value.truthy), ?_, ?_⟩,
      _, ⟨⟨by dsimp only; omega, rfl⟩, .bool false, ?_, rfl⟩, rfl⟩
    · rw [evaluate_not (by omega), hvar]
      rfl
    · rw [htruthy]
      rfl
    · rw [evaluate_not (by omega), hcall]
      rfl

/-- The rounds of the loop come to their end when every item passes and the steps suffice. -/
theorem rounds_ok_iff (hfunctions : ev.functions = Registry.restricted)
    (hdepth : 4 ≤ ev.limits.maxCallDepth) {item : ScalarType} {message : String}
    (items : List Value) {state : State} (hsteps : state.steps ≤ ev.limits.maxIterations) :
    (∃ final, items.foldlM (round ev item message) state = .ok final) ↔
      (∀ value ∈ items, Passes (kindIn state.scope item) value) ∧
        state.steps + 3 * items.length ≤ ev.limits.maxIterations := by
  induction items generalizing state with
  | nil => exact ⟨fun _ => ⟨by simp, by simpa using hsteps⟩, fun _ => ⟨state, rfl⟩⟩
  | cons value rest ih =>
      rw [List.foldlM_cons, List.forall_mem_cons, List.length_cons]
      constructor
      · rintro ⟨final, hfinal⟩
        obtain ⟨next, hround, hrest⟩ := bind_eq_ok.mp hfinal
        obtain ⟨hpasses, hbound, rfl⟩ := (round_eq_ok hfunctions hdepth).mp hround
        obtain ⟨hothers, hlength⟩ := (ih hbound).mp ⟨final, hrest⟩
        -- The name of the kind means the same in the next round.
        rw [kindIn_insert] at hothers
        dsimp only at hlength
        exact ⟨⟨hpasses, hothers⟩, by omega⟩
      · rintro ⟨⟨hpasses, hothers⟩, hlength⟩
        have hbound : state.steps + 3 ≤ ev.limits.maxIterations := by omega
        have hround : round ev item message state value =
            .ok ⟨state.steps + 3, Table.insert state.scope "item" value⟩ :=
          (round_eq_ok hfunctions hdepth).mpr ⟨hpasses, hbound, rfl⟩
        rw [hround, ok_bind]
        refine (ih hbound).mpr ⟨?_, by dsimp only; omega⟩
        rwa [kindIn_insert]

/-- The check comes to its end just when every item passes and the steps suffice for all rounds. -/
theorem execute_ok_iff (hfunctions : ev.functions = Registry.restricted)
    (hdepth : 4 ≤ ev.limits.maxCallDepth) {item : ScalarType} {message : String}
    {items : List Value} (hitems : Table.get? state.scope "value" = some (.list items)) :
    (∃ final, executeBlock ev state (program item message) = .ok final) ↔
      (∀ value ∈ items, Passes (kindIn state.scope item) value) ∧
        state.steps + 1 + 3 * items.length ≤ ev.limits.maxIterations := by
  have hloop : ∀ final, executeBlock ev state (program item message) = .ok final ↔
      state.steps + 1 ≤ ev.limits.maxIterations ∧
        items.foldlM (round ev item message) ⟨state.steps + 1, state.scope⟩ = .ok final := by
    intro final
    have hvalue : evaluate ev state.scope false 0 (.var "value") = .ok (.list items) :=
      evaluate_var (by decide) hitems (by omega)
    have hguard : guarded (ev.guard.checkName "item") = .ok () :=
      ev.guard.guarded_checkName (by decide)
    unfold program
    rw [executeBlock, execute]
    constructor
    · intro hfinal
      obtain ⟨looped, hloop, hrest⟩ := bind_eq_ok.mp hfinal
      rw [executeBlock] at hrest
      cases hrest
      obtain ⟨ticked, htick, hloop⟩ := bind_eq_ok.mp hloop
      obtain ⟨hsteps, rfl⟩ := tick_eq_ok.mp htick
      rw [hguard, ok_bind, evaluateIn, hvalue, ok_bind] at hloop
      exact ⟨hsteps, hloop⟩
    · rintro ⟨hsteps, hrounds⟩
      rw [tick_eq_ok.mpr ⟨hsteps, rfl⟩, ok_bind, hguard, ok_bind, evaluateIn, hvalue, ok_bind]
      change (items.foldlM (round ev item message) _ >>= fun state => executeBlock ev state []) = _
      rw [hrounds, ok_bind, executeBlock]
  constructor
  · rintro ⟨final, hfinal⟩
    obtain ⟨hsteps, hrounds⟩ := (hloop final).mp hfinal
    exact (rounds_ok_iff hfunctions hdepth items hsteps).mp ⟨final, hrounds⟩
  · rintro ⟨hpasses, hlength⟩
    have hsteps : state.steps + 1 ≤ ev.limits.maxIterations := by omega
    obtain ⟨final, hrounds⟩ : ∃ final,
        items.foldlM (round ev item message) ⟨state.steps + 1, state.scope⟩ = .ok final :=
      (rounds_ok_iff hfunctions hdepth items hsteps).mpr ⟨hpasses, hlength⟩
    exact ⟨final, (hloop final).mpr ⟨hsteps, hrounds⟩⟩

end

end ItemCheck

end SchemaGuard
