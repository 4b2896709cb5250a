import SchemaGuard.Proofs.Program.Limits
import SchemaGuard.Proofs.Program.Nesting

/-! # Chained comparisons

A chain of comparisons means what the conjunction of its links means, where a link compares two
neighbouring operands. The conjunction evaluates the operands in the middle twice, and deeper down,
so it may run out of depth where the chain does not. Apart from that both forms come to the outcome
of the first link that does not hold, be it false or a failure, whatever stands after that link.
-/

namespace SchemaGuard

open Outcome

/-! ## Links and conjunctions -/

/-- The comparisons of neighbouring operands in a chain. -/
def Expr.linksFrom : Expr → List (CompareOp × Expr) → List Expr
  | _, [] => []
  | left, (op, right) :: rest => .compare left [(op, right)] :: linksFrom right rest

/-- A conjunction of expressions in their order, however they are grouped. -/
inductive Expr.Conjoins : List Expr → Expr → Prop
  | single (e : Expr) : Conjoins [e] e
  | and {first second : List Expr} {left right : Expr} :
      Conjoins first left → Conjoins second right → Conjoins (first ++ second) (.and left right)

theorem Expr.Conjoins.ne_nil {es : List Expr} {conjunction : Expr}
    (hconjoins : Conjoins es conjunction) : es ≠ [] := by
  induction hconjoins with
  | single e => exact List.cons_ne_nil e []
  | and _ _ hfirst _ => exact List.append_ne_nil_of_left_ne_nil hfirst _

theorem Expr.linksFrom_ne_nil {first : Expr} {links : List (CompareOp × Expr)}
    (hlinks : links ≠ []) : first.linksFrom links ≠ [] := by
  cases links with
  | nil => exact absurd rfl hlinks
  | cons link rest => exact List.cons_ne_nil _ _

/-- A failure for the depth of an evaluation. -/
def EvalError.TooDeep (error : EvalError) : Prop :=
  ∃ max, error = .tooDeep max

namespace Eval

variable {ev : Evaluator} {scope : Scope} {kindExpected : Bool} {depth depth' : Nat}

/-- An evaluation comes to the same at any smaller depth, unless it fails for its depth. -/
theorem evaluate_shallower (hdepth : depth' ≤ depth) (e : Expr) :
    Persists EvalError.TooDeep (evaluate ev scope kindExpected depth e)
      (evaluate ev scope kindExpected depth' e) := by
  have hwidens : Widens EvalError.TooDeep ev.limits ev.limits :=
    ⟨fun _ _ _ => Persists.refl _, ⟨_, rfl⟩⟩
  exact evaluate_persists hwidens scope e kindExpected (Nat.add_le_add_left hdepth _)

/-! ## Conjuncts in order -/

/-- Evaluates conjuncts up to the first one that does not hold. -/
def evaluateAll (ev : Evaluator) (scope : Scope) (depth : Nat) :
    List Expr → Except EvalError Value
  | [] => .ok (.bool true)
  | [e] => evaluate ev scope false depth e
  | e :: next :: rest => do
      let value ← evaluate ev scope false depth e
      if value.truthy then evaluateAll ev scope depth (next :: rest) else pure value

theorem evaluateAll_cons {e : Expr} {rest : List Expr} (hrest : rest ≠ []) :
    evaluateAll ev scope depth (e :: rest) =
      evaluate ev scope false depth e >>= fun value =>
        if value.truthy then evaluateAll ev scope depth rest else pure value := by
  cases rest with
  | nil => exact absurd rfl hrest
  | cons next rest => rw [evaluateAll]

theorem evaluateAll_append {first second : List Expr} (hfirst : first ≠ [])
    (hsecond : second ≠ []) : evaluateAll ev scope depth (first ++ second) =
      evaluateAll ev scope depth first >>= fun value =>
        if value.truthy then evaluateAll ev scope depth second else pure value := by
  induction first with
  | nil => exact absurd rfl hfirst
  | cons e rest ih =>
      cases rest with
      | nil => exact evaluateAll_cons hsecond
      | cons next rest =>
          rw [List.cons_append, evaluateAll_cons (by simp), evaluateAll_cons (by simp),
            ih (List.cons_ne_nil next rest)]
          cases evaluate ev scope false depth e with
          | error failure => rfl
          | ok value =>
              rw [ok_bind, ok_bind]
              cases htruthy : value.truthy with
              | true => rfl
              | false => simp [htruthy]

/-- The first conjunct that does not hold decides, whatever stands after it. -/
theorem evaluateAll_of_first {before after : List Expr} {e : Expr}
    (hbefore : ∀ earlier ∈ before, ∃ value,
      evaluate ev scope false depth earlier = .ok value ∧ value.truthy = true)
    (he : ∀ value, evaluate ev scope false depth e = .ok value → value.truthy = false) :
    evaluateAll ev scope depth (before ++ e :: after) = evaluate ev scope false depth e := by
  induction before with
  | nil =>
      cases after with
      | nil => rfl
      | cons next rest =>
          rw [List.nil_append, evaluateAll_cons (List.cons_ne_nil next rest)]
          cases hvalue : evaluate ev scope false depth e with
          | error failure => rfl
          | ok value =>
              rw [ok_bind, he value hvalue]
              rfl
  | cons earlier before ih =>
      obtain ⟨⟨value, hvalue, htruthy⟩, hbefore⟩ := List.forall_mem_cons.mp hbefore
      rw [List.cons_append, evaluateAll_cons (by simp), hvalue, ok_bind, htruthy, if_pos rfl,
        ih hbefore]

/-- A conjunction evaluates its conjuncts in order, unless it fails for its depth. -/
theorem evaluate_conjunction {es : List Expr} {conjunction : Expr}
    (hconjoins : Expr.Conjoins es conjunction) (hdepth : depth' ≤ depth) :
    Persists EvalError.TooDeep (evaluate ev scope false depth conjunction)
      (evaluateAll ev scope depth' es) := by
  induction hconjoins generalizing depth with
  | single e => exact evaluate_shallower hdepth e
  | @and first second left right hfirst hsecond ihfirst ihsecond =>
      rw [evaluate, evaluateAll_append hfirst.ne_nil hsecond.ne_nil]
      unfold enter
      split
      next =>
        rw [ok_bind]
        refine (ihfirst (Nat.le_succ_of_le hdepth)).bind fun value => ?_
        split
        · exact ihsecond (Nat.le_succ_of_le hdepth)
        · exact Persists.refl _
      next => exact Persists.error ⟨_, rfl⟩ _

/-! ## Chains -/

/-- A chain evaluates its links in order. -/
theorem evaluate_chain {first : Expr} {links : List (CompareOp × Expr)} (hlinks : links ≠ []) :
    evaluate ev scope kindExpected depth (.compare first links) =
      evaluateAll ev scope depth (first.linksFrom links) := by
  induction links generalizing first kindExpected with
  | nil => exact absurd rfl hlinks
  | cons link rest ih =>
      obtain ⟨op, operand⟩ := link
      cases rest with
      | nil => rw [Expr.linksFrom, Expr.linksFrom, evaluateAll, evaluate, evaluate]
      | cons link rest =>
          have hrest : link :: rest ≠ [] := List.cons_ne_nil link rest
          rw [Expr.linksFrom, evaluateAll_cons (Expr.linksFrom_ne_nil hrest),
            ← @ih false operand hrest]
          simp only [evaluate]
          cases enter ev.limits depth with
          | error failure => rfl
          | ok deeper =>
              simp only [ok_bind]
              cases evaluate ev scope false deeper first with
              | error failure => rfl
              | ok left =>
                  simp only [ok_bind]
                  rw [evaluateLinks, evaluateLinks]
                  cases evaluate ev scope false deeper operand with
                  | error failure => rfl
                  | ok right =>
                      simp only [ok_bind]
                      cases compare op left right with
                      | error failure => rfl
                      | ok holds => cases holds <;> rfl

/-- A comparison comes to a truth value. -/
theorem evaluateLinks_yields (left : Value) (links : List (CompareOp × Expr)) :
    Yields (fun value => ∃ holds, value = .bool holds)
      (evaluateLinks ev scope depth left links) := by
  induction links generalizing left with
  | nil =>
      rw [evaluateLinks]
      exact (Yields.ok_iff _).mpr ⟨true, rfl⟩
  | cons link rest ih =>
      rw [evaluateLinks]
      refine Yields.bind fun right _ => Yields.bind fun holds _ => ?_
      split
      · exact ih right
      · exact (Yields.ok_iff _).mpr ⟨false, rfl⟩

theorem evaluate_compare_yields (first : Expr) (links : List (CompareOp × Expr)) :
    Yields (fun value => ∃ holds, value = .bool holds)
      (evaluate ev scope kindExpected depth (.compare first links)) := by
  rw [evaluate]
  exact Yields.bind fun deeper _ => Yields.bind fun left _ => evaluateLinks_yields left links

theorem evaluate_link {first link : Expr} {links : List (CompareOp × Expr)}
    (hlink : link ∈ first.linksFrom links) :
    evaluate ev scope kindExpected depth link = evaluate ev scope false depth link ∧
      Yields (fun value => ∃ holds, value = .bool holds) (evaluate ev scope false depth link) := by
  induction links generalizing first with
  | nil => cases hlink
  | cons head rest ih =>
      rcases List.mem_cons.mp hlink with rfl | hrest
      · exact ⟨by rw [evaluate, evaluate], evaluate_compare_yields first [head]⟩
      · exact ih hrest

/-- A conjunction of links is not read as a kind anywhere. -/
theorem evaluate_conjunction_of_links {first conjunction : Expr}
    {links : List (CompareOp × Expr)}
    (hconjoins : Expr.Conjoins (first.linksFrom links) conjunction) :
    evaluate ev scope kindExpected depth conjunction =
      evaluate ev scope false depth conjunction := by
  generalize hes : first.linksFrom links = es at hconjoins
  cases hconjoins with
  | single => exact (evaluate_link (hes ▸ List.mem_singleton_self conjunction)).1
  | and _ _ => rw [evaluate, evaluate]

/-- A chained comparison is the conjunction of its links. Both forms come to the same value or the
same failure when the depth suffices for the conjunction, which it does for one that is as high as
permitted. The first link that is not true decides: the chain comes to its outcome, whatever
operands follow. -/
theorem chain_is_conjunction {first conjunction : Expr} {links : List (CompareOp × Expr)}
    (hlinks : links ≠ []) (hconjoins : Expr.Conjoins (first.linksFrom links) conjunction) :
    ((∀ max, evaluate ev scope kindExpected depth conjunction ≠ .error (.tooDeep max)) →
      evaluate ev scope kindExpected depth (.compare first links) =
        evaluate ev scope kindExpected depth conjunction) ∧
    (depth + conjunction.depth ≤ ev.limits.maxCallDepth →
      ∀ max, evaluate ev scope kindExpected depth conjunction ≠ .error (.tooDeep max)) ∧
    ∀ before link after, first.linksFrom links = before ++ link :: after →
      (∀ earlier ∈ before,
        evaluate ev scope kindExpected depth earlier = .ok (.bool true)) →
      evaluate ev scope kindExpected depth link ≠ .ok (.bool true) →
      evaluate ev scope kindExpected depth (.compare first links) =
        evaluate ev scope kindExpected depth link := by
  refine ⟨?_, ?_, ?_⟩
  · intro hdepth
    rw [evaluate_conjunction_of_links hconjoins] at hdepth ⊢
    rw [evaluate_chain hlinks]
    refine (evaluate_conjunction hconjoins (Nat.le_refl depth)).eq fun error herror hkind => ?_
    obtain ⟨max, rfl⟩ := hkind
    exact hdepth max herror
  · intro hheight max hdeep
    exact evaluate_within_height hheight scope kindExpected _ hdeep max rfl
  · intro before link after hsplit hbefore hlink
    have hmem : ∀ e ∈ before ++ link :: after,
        evaluate ev scope kindExpected depth e = evaluate ev scope false depth e ∧
          Yields (fun value => ∃ holds, value = .bool holds)
            (evaluate ev scope false depth e) :=
      fun e he => evaluate_link (hsplit ▸ he)
    obtain ⟨hmembefore, hmemafter⟩ := List.forall_mem_append.mp hmem
    obtain ⟨hsame, hyields⟩ := hmemafter link List.mem_cons_self
    rw [hsame] at hlink ⊢
    rw [evaluate_chain hlinks, hsplit]
    apply evaluateAll_of_first
    · intro earlier hearlier
      exact ⟨_, (hmembefore earlier hearlier).1 ▸ hbefore earlier hearlier, rfl⟩
    · intro value hvalue
      obtain ⟨holds, rfl⟩ := hyields value hvalue
      cases holds with
      | false => rfl
      | true => exact absurd hvalue hlink

/-- A chain that is false at its second link is false although its last operand has no value. -/
theorem chain_stops_before_missing :
    let ev := Evaluator.withBuiltins {} .restricted
    let links := [(.less, .int 2), (.greater, .int 5), (.equal, .var "missing")]
    let conjunction : Expr :=
      .and (.and (.compare (.int 1) [(.less, .int 2)]) (.compare (.int 2) [(.greater, .int 5)]))
        (.compare (.int 5) [(.equal, .var "missing")])
    links ≠ [] ∧ Expr.Conjoins ((Expr.int 1).linksFrom links) conjunction ∧
      evaluate ev [] false 0 conjunction = .ok (.bool false) ∧
      evaluate ev [] false 0 (.compare (.int 1) links) = .ok (.bool false) ∧
      evaluate ev [] false 0 (.var "missing") = .error (.undefinedVariable "missing") := by
  intro ev links conjunction
  have hlinks : links ≠ [] := List.cons_ne_nil _ _
  have hconjoins : Expr.Conjoins ((Expr.int 1).linksFrom links) conjunction :=
    .and (.and (.single _) (.single _)) (.single _)
  have hfalse : evaluate ev [] false 0 conjunction = .ok (.bool false) := rfl
  have hsame : evaluate ev [] false 0 (.compare (.int 1) links) =
      evaluate ev [] false 0 conjunction :=
    (chain_is_conjunction hlinks hconjoins).1 (by simp [hfalse])
  exact ⟨hlinks, hconjoins, hfalse, hsame.trans hfalse, rfl⟩

end Eval

end SchemaGuard
