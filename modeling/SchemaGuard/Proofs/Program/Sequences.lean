import SchemaGuard.Constraint
import SchemaGuard.Engine
import SchemaGuard.Proofs.Number
import SchemaGuard.Proofs.Program.Coupling

/-! # Views of a sequence

A text or a list is seen by programs through its length, its list of items, the rounds of a loop over
it and its elements by index, and by constraints through its size. All of these show the same items:
a text has as many as it has characters, however many bytes these take. An index counts from either
end, and one that is out of range is refused as it was given.
-/

namespace SchemaGuard

open Outcome

namespace Eval

/-! ## Elements by index -/

section Elements

variable {α : Type} {items : List α} {i : Int}

/-- An index within range counts from the front, or from the end when it is negative. -/
theorem elementAt_within (hlow : -(items.length : Int) ≤ i) (hhigh : i < items.length) :
    ∃ (j : Nat) (hj : j < items.length), (j : Int) = (if i < 0 then items.length + i else i) ∧
      elementAt items i = .ok items[j] := by
  obtain ⟨j, hposition⟩ : ∃ j : Nat, (if i < 0 then items.length + i else i) = (j : Int) := by
    apply Int.eq_ofNat_of_zero_le
    split <;> omega
  have hj : j < items.length := by
    split at hposition <;> omega
  refine ⟨j, hj, hposition.symm, ?_⟩
  unfold elementAt
  dsimp only
  rw [hposition, if_neg (Int.not_lt.mpr (Int.natCast_nonneg j)), Int.toNat_natCast,
    List.getElem?_eq_getElem hj]

/-- An index out of range is refused as it was given. -/
theorem elementAt_beyond (hbeyond : ¬ (-(items.length : Int) ≤ i ∧ i < items.length)) :
    elementAt items i = .error (.indexOutOfRange i) := by
  have hposition : (if i < 0 then items.length + i else i) < 0 ∨
      (items.length : Int) ≤ (if i < 0 then items.length + i else i) := by
    split <;> omega
  unfold elementAt
  dsimp only
  generalize (if i < 0 then items.length + i else i) = position at hposition ⊢
  split
  next => rfl
  next hnonneg =>
    have hlength : items.length ≤ position.toNat := by omega
    rw [List.getElem?_eq_none hlength]

end Elements

/-! ## Rounds of a loop -/

/-- Rounds of a loop, one for each item: a round takes a step, binds the name to the item and runs
the body. -/
inductive Rounds (ev : Evaluator) (name : String) (body : List Statement) :
    State → List Value → State → Prop
  | done (state : State) : Rounds ev name body state [] state
  | next {state ticked after final : State} {item : Value} {rest : List Value} :
      tick ev.limits state = .ok ticked →
      executeBlock ev (ticked.bind name item) body = .ok after →
      Rounds ev name body after rest final → Rounds ev name body state (item :: rest) final

theorem rounds_iff {ev : Evaluator} {name : String} {body : List Statement} {items : List Value}
    {state final : State} :
    Rounds ev name body state items final ↔
      items.foldlM (fun state item => do
        let state ← tick ev.limits state
        executeBlock ev (state.bind name item) body) state = .ok final := by
  induction items generalizing state with
  | nil =>
      rw [List.foldlM_nil, pure_eq_ok, Except.ok.injEq]
      constructor
      · rintro ⟨⟩
        rfl
      · rintro rfl
        exact .done state
  | cons item rest ih =>
      rw [List.foldlM_cons]
      constructor
      · rintro ⟨⟩
        next ticked after htick hbody hrest =>
          exact bind_eq_ok.mpr ⟨after, bind_eq_ok.mpr ⟨ticked, htick, hbody⟩, ih.mp hrest⟩
      · intro hrounds
        obtain ⟨after, hround, hrest⟩ := bind_eq_ok.mp hrounds
        obtain ⟨ticked, htick, hbody⟩ := bind_eq_ok.mp hround
        exact .next htick hbody (ih.mpr hrest)

/-- A loop comes to an end just if its rounds over the items of its source do. -/
theorem execute_loop {ev : Evaluator} {state ticked final : State} {name : String}
    {iterable : Expr} {body : List Statement} {source : Value} {items : List Value}
    (htick : tick ev.limits state = .ok ticked)
    (hsource : evaluateIn ev ticked iterable = .ok source) (hitems : source.iterate? = some items) :
    execute ev state (.loop name iterable body) = .ok final ↔
      guarded (ev.guard.checkName name) = .ok () ∧ Rounds ev name body ticked items final := by
  rw [execute, htick, ok_bind, rounds_iff]
  cases guarded (ev.guard.checkName name) with
  | error refusal => simp
  | ok _ => rw [ok_bind, hsource, ok_bind, hitems, eq_self, true_and]

end Eval

/-! ## Sequences -/

namespace Value

open Eval

/-- A text or a list. -/
def IsSequence : Value → Prop
  | str _ | list _ => True
  | _ => False

/-- All views of a value show the same items. Its list and its length are what the functions of these
names give; a loop over it makes a round for each item; constraints check the number of its items; an
index within range reads an item, from the front or from the end, and no other index does. The
position that a negative index stands for is a 64-bit integer. -/
structure Shows (v : Value) (items : List Value) : Prop where
  list : Registry.restricted.call "list" [v] = .ok (.list items)
  len : Registry.restricted.call "len" [v] = .ok (.int items.length)
  rounds : ∀ {ev : Evaluator} {state ticked final : State} {name : String} {iterable : Expr}
    {body : List Statement}, tick ev.limits state = .ok ticked →
    evaluateIn ev ticked iterable = .ok v →
    (execute ev state (.loop name iterable body) = .ok final ↔
      guarded (ev.guard.checkName name) = .ok () ∧ Rounds ev name body ticked items final)
  atLeast : ∀ size, (Constraint.minLength size).holds v = decide (size ≤ items.length) ∧
    (Constraint.minItems size).holds v = decide (size ≤ items.length)
  atMost : ∀ size, (Constraint.maxLength size).holds v = decide (items.length ≤ size) ∧
    (Constraint.maxItems size).holds v = decide (items.length ≤ size)
  within : ∀ i : Int, Int64Range.holds i = true →
    -(items.length : Int) ≤ i → i < items.length →
    ∃ (j : Nat) (hj : j < items.length), (j : Int) = (if i < 0 then items.length + i else i) ∧
      readIndex v (.int i) = .ok items[j]
  beyond : ∀ i : Int, Int64Range.holds i = true →
    ¬ (-(items.length : Int) ≤ i ∧ i < items.length) →
    readIndex v (.int i) = .error (.indexOutOfRange i)
  position : ∀ i : Int, Int64Range.holds i = true → i < 0 → items.length < 2 ^ 63 →
    Int64Range.holds (items.length + i) = true

theorem holds_length_add {n : Nat} {i : Int} (hi : Int64Range.holds i = true) (hneg : i < 0)
    (hn : n < 2 ^ 63) : Int64Range.holds (n + i) = true := by
  rw [Int64Range.holds_iff] at hi ⊢
  omega

theorem shows_list (items : List Value) : Shows (list items) items where
  list := rfl
  len := rfl
  rounds htick hsource := execute_loop htick hsource rfl
  atLeast _ := ⟨rfl, rfl⟩
  atMost _ := ⟨rfl, rfl⟩
  within i hi hlow hhigh := by
    rw [readIndex, if_pos hi]
    exact elementAt_within hlow hhigh
  beyond i hi hbeyond := by
    rw [readIndex, if_pos hi]
    exact elementAt_beyond hbeyond
  position _ := holds_length_add

/-- The items of a text are its characters, each of them a text. -/
theorem shows_str (s : String) :
    Shows (str s) (s.toList.map fun c => str (String.singleton c)) where
  list := rfl
  len := by
    rw [List.length_map, String.length_toList]
    rfl
  rounds htick hsource := execute_loop htick hsource rfl
  atLeast _ := by
    rw [List.length_map, String.length_toList]
    exact ⟨rfl, rfl⟩
  atMost _ := by
    rw [List.length_map, String.length_toList]
    exact ⟨rfl, rfl⟩
  within i hi hlow hhigh := by
    rw [List.length_map] at hlow hhigh
    obtain ⟨j, hj, hposition, helement⟩ := elementAt_within hlow hhigh
    refine ⟨j, by rwa [List.length_map], by rwa [List.length_map], ?_⟩
    rw [readIndex, if_pos hi, helement, List.getElem_map]
    rfl
  beyond i hi hbeyond := by
    rw [List.length_map] at hbeyond
    rw [readIndex, if_pos hi, elementAt_beyond hbeyond]
    rfl
  position _ := holds_length_add

/-- The views of a text or a list agree. -/
theorem sequence_views_agree {v : Value} (hv : v.IsSequence) : ∃ items, Shows v items := by
  cases v with
  | str s => exact ⟨_, shows_str s⟩
  | list items => exact ⟨items, shows_list items⟩
  | _ => exact hv.elim

/-- A text of ten bytes has four characters in every view, and the least integer is out of range. -/
theorem four_characters_shown :
    let v := str "aé€😀"
    let items := [str "a", str "é", str "€", str "😀"]
    v.IsSequence ∧ Registry.restricted.call "list" [v] = .ok (.list items) ∧
      Registry.restricted.call "len" [v] = .ok (.int 4) ∧
      (Constraint.minLength 4).holds v = true ∧ (Constraint.minLength 5).holds v = false ∧
      readIndex v (.int (-1)) = .ok (str "😀") ∧
      readIndex v (.int (-2 ^ 63)) = .error (.indexOutOfRange (-2 ^ 63)) := by
  intro v items
  obtain ⟨found, hshows⟩ := sequence_views_agree (v := v) trivial
  have hlist : Registry.restricted.call "list" [v] = .ok (.list items) := rfl
  obtain rfl : found = items := by
    have hfound := hshows.list.symm.trans hlist
    rwa [Except.ok.injEq, list.injEq] at hfound
  obtain ⟨j, hj, hposition, hlast⟩ := hshows.within (-1) (by decide) (by decide) (by decide)
  obtain rfl : j = 3 := by
    have hlength : items.length = 4 := rfl
    rw [hlength, if_pos (by decide)] at hposition
    omega
  exact ⟨trivial, hlist, hshows.len, (hshows.atLeast 4).1, (hshows.atLeast 5).1, hlast,
    hshows.beyond _ (by decide) (by decide)⟩

end Value

end SchemaGuard
