import SchemaGuard.Proofs.Source.Limits
import SchemaGuard.Proofs.Source.Sequence

/-! # The budget of reading

Reading ends with a result or a refusal before its budget is used up. Every function of the
reader takes a token, or hands over to one on the next tighter level, of which there are
fewer than sixteen; so sixteen calls for each token are enough, with a few more for the
level at which a function stands.
-/

namespace SchemaGuard

open Outcome

namespace Parser

/-- An outcome that is a refusal, or a result with a property; the budget is not used up. -/
def Concludes {α : Type} (property : α → Prop) (outcome : Except Halt α) : Prop :=
  FailsOnly (· ≠ .exhausted) outcome ∧ Yields property outcome

/-- A reading that concludes with fewer tokens left than a bound. -/
abbrev Leaves {α : Type} (bound : Nat) (outcome : Except Halt (α × List Lexeme)) : Prop :=
  Concludes (fun read => read.2.length < bound) outcome

namespace Concludes

variable {α β : Type} {property : α → Prop} {property' : β → Prop}

theorem ok {a : α} (ha : property a) : Concludes property (.ok a) :=
  ⟨FailsOnly.ok a, (Yields.ok_iff a).mpr ha⟩

theorem refused (error : ParseError) : Concludes property (.error (.refused error)) :=
  ⟨(FailsOnly.error_iff _).mpr Halt.noConfusion, Yields.error _⟩

theorem bind {outcome : Except Halt α} {next : α → Except Halt β}
    (houtcome : Concludes property outcome)
    (hnext : ∀ a, property a → Concludes property' (next a)) :
    Concludes property' (outcome >>= next) :=
  ⟨houtcome.1.bind fun a ha => (hnext a (houtcome.2 a ha)).1,
    houtcome.2.next fun a ha => (hnext a ha).2⟩

theorem mono {outcome : Except Halt α} {weaker : α → Prop} (houtcome : Concludes property outcome)
    (hweaker : ∀ a, property a → weaker a) : Concludes weaker outcome :=
  ⟨houtcome.1, fun a ha => hweaker a (houtcome.2 a ha)⟩

theorem map {outcome : Except Halt α} {f : α → β} (houtcome : Concludes property outcome)
    (hf : ∀ a, property a → property' (f a)) : Concludes property' (outcome.map f) :=
  ⟨houtcome.1.map, houtcome.2.map hf⟩

end Concludes

/-! ## Tokens taken -/

variable {limits : ParseLimits} {tokens : List Lexeme}

/-- Only the end of the source can be passed without a token to take. -/
theorem length_tail {token : Token} (hcurrent : current tokens = token) (htoken : token ≠ .eof) :
    tokens.tail.length + 1 = tokens.length := by
  cases tokens with
  | nil => exact absurd hcurrent.symm htoken
  | cons lexeme rest => rfl

theorem unexpected_concludes {α : Type} {property : α → Prop} (tokens : List Lexeme) :
    Concludes property (.error (unexpected tokens)) :=
  Concludes.refused _

theorem enter_concludes (depth : Nat) : Concludes (fun _ => True) (enter limits depth) := by
  unfold enter
  split
  · exact Concludes.ok trivial
  · exact Concludes.refused _

theorem expect_concludes (token : Token) (htoken : token ≠ .eof) (tokens : List Lexeme) :
    Concludes (fun rest => rest.length < tokens.length) (expect token tokens) := by
  unfold expect
  split
  next hcurrent =>
    have hlength := length_tail hcurrent htoken
    exact Concludes.ok (by omega)
  next => exact unexpected_concludes tokens

theorem expectName_leaves (tokens : List Lexeme) : Leaves tokens.length (expectName tokens) := by
  unfold expectName
  split
  next name hcurrent =>
    have hlength := length_tail hcurrent nofun
    exact Concludes.ok (by dsimp only; omega)
  next => exact unexpected_concludes tokens

theorem comparison?_length {op : CompareOp} {rest : List Lexeme}
    (hcompare : comparison? tokens = some (op, rest)) : rest.length < tokens.length := by
  cases tokens with
  | nil => cases hcompare
  | cons lexeme tokens =>
      have hmore := List.length_tail (l := tokens)
      unfold comparison? at hcompare
      split at hcompare <;> cases hcompare <;>
        simp only [List.tail_cons, List.length_cons] <;> omega

theorem adjacentStrings_length (tokens : List Lexeme) :
    (adjacentStrings tokens).2.length ≤ tokens.length := by
  induction tokens with
  | nil => exact Nat.le_refl 0
  | cons lexeme rest ih =>
      rw [adjacentStrings]
      split
      · exact Nat.le_succ_of_le ih
      · exact Nat.le_refl _

theorem adjacentStrings_length_lt {s : String} (hcurrent : current tokens = .str s) :
    (adjacentStrings tokens).2.length < tokens.length := by
  cases tokens with
  | nil => cases hcurrent
  | cons lexeme rest =>
      have hrest := adjacentStrings_length rest
      have htoken : lexeme.token = .str s := hcurrent
      rw [adjacentStrings, htoken]
      exact Nat.lt_succ_of_le hrest

theorem skipNewlines_length (tokens : List Lexeme) :
    (skipNewlines tokens).length ≤ tokens.length := by
  induction tokens with
  | nil => exact Nat.le_refl 0
  | cons lexeme rest ih =>
      rw [skipNewlines]
      split
      · exact Nat.le_succ_of_le ih
      · exact Nat.le_refl _

theorem ne_eof_of_operator {level : Level} {token : Token} {build : Expr → Expr → Expr}
    (hbuild : level.operator? token = some build) : token ≠ .eof := by
  rintro rfl
  cases level <;> cases hbuild

/-! ## Expressions -/

/-- The calls that an operand of a level hands over, down to a literal or a name. -/
def Level.calls : Level → Nat
  | .disjunction => 10
  | .conjunction => 8
  | .sum => 5
  | .term => 3

theorem Level.calls_le (level : Level) : level.calls ≤ 10 := by
  cases level <;> decide

mutual

theorem expression_leaves : ∀ (fuel depth : Nat) (tokens : List Lexeme),
    16 * tokens.length + 12 ≤ fuel → Leaves tokens.length (expression limits fuel depth tokens)
  | 0, _, _, hfuel => by omega
  | fuel + 1, depth, tokens, hfuel => by
      rw [expression]
      refine (enter_concludes depth).bind fun depth _ => ?_
      refine (chain_leaves fuel .disjunction depth tokens (by rw [Level.calls]; omega)).bind
        fun (value, rest) hrest => ?_
      dsimp only at hrest ⊢
      split
      next hcurrent =>
        have hlength := length_tail hcurrent nofun
        refine (chain_leaves fuel .disjunction depth rest.tail (by rw [Level.calls]; omega)).bind
          fun (condition, others) hothers => ?_
        dsimp only at hothers ⊢
        refine (expect_concludes .elseWord nofun others).bind fun others hexpect => ?_
        refine (expression_leaves fuel depth others (by omega)).bind fun (other, left) hleft => ?_
        dsimp only at hleft
        exact Concludes.ok (by dsimp only; omega)
      next => exact Concludes.ok hrest

theorem chain_leaves : ∀ (fuel : Nat) (level : Level) (depth : Nat) (tokens : List Lexeme),
    16 * tokens.length + level.calls + 1 ≤ fuel →
      Leaves tokens.length (chain limits fuel level depth tokens)
  | 0, _, _, _, hfuel => by omega
  | fuel + 1, level, depth, tokens, hfuel => by
      rw [chain]
      refine (operand_leaves fuel level depth tokens (by omega)).bind fun (left, rest) hrest => ?_
      dsimp only at hrest
      exact (chainFrom_leaves fuel level depth left rest (by omega)).mono fun _ hread => by omega

theorem chainFrom_leaves : ∀ (fuel : Nat) (level : Level) (depth : Nat) (left : Expr)
    (tokens : List Lexeme), 16 * tokens.length + 1 ≤ fuel →
      Leaves (tokens.length + 1) (chainFrom limits fuel level depth left tokens)
  | 0, _, _, _, _, hfuel => by omega
  | fuel + 1, level, depth, left, tokens, hfuel => by
      rw [chainFrom]
      split
      next build hbuild =>
        have hlength := length_tail rfl (ne_eof_of_operator hbuild)
        have hcalls := level.calls_le
        refine (operand_leaves fuel level depth tokens.tail (by omega)).bind
          fun (right, rest) hrest => ?_
        dsimp only at hrest
        exact (chainFrom_leaves fuel level depth _ rest (by omega)).mono fun _ hread => by omega
      next => exact Concludes.ok (Nat.lt_succ_self _)

theorem operand_leaves : ∀ (fuel : Nat) (level : Level) (depth : Nat) (tokens : List Lexeme),
    16 * tokens.length + level.calls ≤ fuel →
      Leaves tokens.length (operand limits fuel level depth tokens)
  | 0, level, _, _, hfuel => by cases level <;> rw [Level.calls] at hfuel <;> omega
  | fuel + 1, .disjunction, depth, tokens, hfuel => by
      rw [operand]
      exact chain_leaves fuel .conjunction depth tokens
        (by simp only [Level.calls] at hfuel ⊢; omega)
  | fuel + 1, .conjunction, depth, tokens, hfuel => by
      rw [operand]
      exact negation_leaves fuel depth tokens (by rw [Level.calls] at hfuel; omega)
  | fuel + 1, .sum, depth, tokens, hfuel => by
      rw [operand]
      exact chain_leaves fuel .term depth tokens (by simp only [Level.calls] at hfuel ⊢; omega)
  | fuel + 1, .term, depth, tokens, hfuel => by
      rw [operand]
      exact signed_leaves fuel depth tokens (by rw [Level.calls] at hfuel; omega)

theorem negation_leaves : ∀ (fuel depth : Nat) (tokens : List Lexeme),
    16 * tokens.length + 7 ≤ fuel → Leaves tokens.length (negation limits fuel depth tokens)
  | 0, _, _, hfuel => by omega
  | fuel + 1, depth, tokens, hfuel => by
      rw [negation]
      split
      next hcurrent =>
        have hlength := length_tail hcurrent nofun
        refine (enter_concludes depth).bind fun depth _ => ?_
        refine (negation_leaves fuel depth tokens.tail (by omega)).bind
          fun (inner, rest) hrest => ?_
        dsimp only at hrest
        exact Concludes.ok (by dsimp only; omega)
      next =>
        refine (chain_leaves fuel .sum depth tokens (by rw [Level.calls]; omega)).bind
          fun (first, rest) hrest => ?_
        dsimp only at hrest ⊢
        refine (comparisons_leaves fuel depth rest (by omega)).bind fun (links, left) hleft => ?_
        dsimp only at hleft ⊢
        split <;> exact Concludes.ok (by dsimp only; omega)

theorem comparisons_leaves : ∀ (fuel depth : Nat) (tokens : List Lexeme),
    16 * tokens.length + 1 ≤ fuel →
      Leaves (tokens.length + 1) (comparisons limits fuel depth tokens)
  | 0, _, _, hfuel => by omega
  | fuel + 1, depth, tokens, hfuel => by
      rw [comparisons]
      split
      next op following hcompare =>
        have hlength := comparison?_length hcompare
        refine (chain_leaves fuel .sum depth following (by rw [Level.calls]; omega)).bind
          fun (right, rest) hrest => ?_
        dsimp only at hrest ⊢
        refine (comparisons_leaves fuel depth rest (by omega)).bind fun (links, left) hleft => ?_
        dsimp only at hleft
        exact Concludes.ok (by dsimp only; omega)
      next => exact Concludes.ok (Nat.lt_succ_self _)

theorem signed_leaves : ∀ (fuel depth : Nat) (tokens : List Lexeme),
    16 * tokens.length + 2 ≤ fuel → Leaves tokens.length (signed limits fuel depth tokens)
  | 0, _, _, hfuel => by omega
  | fuel + 1, depth, tokens, hfuel => by
      rw [signed]
      split
      next hcurrent =>
        have hlength := length_tail hcurrent nofun
        refine (enter_concludes depth).bind fun depth _ => ?_
        refine (signed_leaves fuel depth tokens.tail (by omega)).bind fun (inner, rest) hrest => ?_
        dsimp only at hrest
        exact Concludes.ok (by dsimp only; omega)
      next hcurrent =>
        have hlength := length_tail hcurrent nofun
        refine (enter_concludes depth).bind fun depth _ => ?_
        exact (signed_leaves fuel depth tokens.tail (by omega)).mono fun _ hread => by omega
      next =>
        refine (primary_leaves fuel depth tokens (by omega)).bind fun (base, rest) hrest => ?_
        dsimp only at hrest
        exact (suffixes_leaves fuel depth base rest (by omega)).mono fun _ hread => by omega

theorem suffixes_leaves : ∀ (fuel depth : Nat) (base : Expr) (tokens : List Lexeme),
    16 * tokens.length + 1 ≤ fuel →
      Leaves (tokens.length + 1) (suffixes limits fuel depth base tokens)
  | 0, _, _, _, hfuel => by omega
  | fuel + 1, depth, base, tokens, hfuel => by
      rw [suffixes]
      split
      next hcurrent =>
        have hlength := length_tail hcurrent nofun
        refine (expectName_leaves tokens.tail).bind fun (name, rest) hrest => ?_
        dsimp only at hrest
        exact (suffixes_leaves fuel depth _ rest (by omega)).mono fun _ hread => by omega
      next hcurrent =>
        have hlength := length_tail hcurrent nofun
        refine (expression_leaves fuel depth tokens.tail (by omega)).bind
          fun (position, rest) hrest => ?_
        dsimp only at hrest ⊢
        refine (expect_concludes .rightBracket nofun rest).bind fun left hleft => ?_
        exact (suffixes_leaves fuel depth _ left (by omega)).mono fun _ hread => by omega
      next hcurrent =>
        have hlength := length_tail hcurrent nofun
        refine (items_leaves fuel .rightParen nofun depth tokens.tail (by omega)).bind
          fun (args, rest) hrest => ?_
        dsimp only at hrest
        exact (suffixes_leaves fuel depth _ rest (by omega)).mono fun _ hread => by omega
      next => exact Concludes.ok (Nat.lt_succ_self _)

theorem items_leaves : ∀ (fuel : Nat) (close : Token) (_ : close ≠ .eof) (depth : Nat)
    (tokens : List Lexeme), 16 * tokens.length + 13 ≤ fuel →
      Leaves tokens.length (items limits fuel close depth tokens)
  | 0, _, _, _, _, hfuel => by omega
  | fuel + 1, close, hclose, depth, tokens, hfuel => by
      rw [items]
      split
      next hcurrent =>
        have hlength := length_tail hcurrent hclose
        exact Concludes.ok (by dsimp only; omega)
      next =>
        refine (expression_leaves fuel depth tokens (by omega)).bind fun (item, rest) hrest => ?_
        dsimp only at hrest ⊢
        split
        next hcurrent =>
          have hlength := length_tail hcurrent nofun
          refine (items_leaves fuel close hclose depth rest.tail (by omega)).bind
            fun (others, left) hleft => ?_
          dsimp only at hleft
          exact Concludes.ok (by dsimp only; omega)
        next =>
          split
          next hcurrent =>
            have hlength := length_tail hcurrent hclose
            exact Concludes.ok (by dsimp only; omega)
          next => exact unexpected_concludes rest

theorem primary_leaves : ∀ (fuel depth : Nat) (tokens : List Lexeme),
    16 * tokens.length + 1 ≤ fuel → Leaves tokens.length (primary limits fuel depth tokens)
  | 0, _, _, hfuel => by omega
  | fuel + 1, depth, tokens, hfuel => by
      rw [primary]
      split
      case h_5 hcurrent => exact Concludes.ok (adjacentStrings_length_lt hcurrent)
      case h_8 hcurrent =>
        have hlength := length_tail hcurrent nofun
        refine (enter_concludes depth).bind fun depth _ => ?_
        exact (parenthesised_leaves fuel depth tokens.tail (by omega)).mono fun _ hread => by omega
      case h_9 hcurrent =>
        have hlength := length_tail hcurrent nofun
        refine (enter_concludes depth).bind fun depth _ => ?_
        refine (items_leaves fuel .rightBracket nofun depth tokens.tail (by omega)).bind
          fun (list, rest) hrest => ?_
        dsimp only at hrest
        exact Concludes.ok (by dsimp only; omega)
      case h_10 => exact unexpected_concludes tokens
      -- The others are a single token each.
      all_goals
        next hcurrent =>
          have hlength := length_tail hcurrent nofun
          exact Concludes.ok (by dsimp only; omega)

theorem parenthesised_leaves : ∀ (fuel depth : Nat) (tokens : List Lexeme),
    16 * tokens.length + 13 ≤ fuel → Leaves tokens.length (parenthesised limits fuel depth tokens)
  | 0, _, _, hfuel => by omega
  | fuel + 1, depth, tokens, hfuel => by
      rw [parenthesised]
      split
      next hcurrent =>
        have hlength := length_tail hcurrent nofun
        exact Concludes.ok (by dsimp only; omega)
      next =>
        refine (expression_leaves fuel depth tokens (by omega)).bind fun (first, rest) hrest => ?_
        dsimp only at hrest ⊢
        split
        next hcurrent =>
          have hlength := length_tail hcurrent nofun
          exact Concludes.ok (by dsimp only; omega)
        next hcurrent =>
          have hlength := length_tail hcurrent nofun
          refine (items_leaves fuel .rightParen nofun depth rest.tail (by omega)).bind
            fun (others, left) hleft => ?_
          dsimp only at hleft
          exact Concludes.ok (by dsimp only; omega)
        next => exact Concludes.refused _

end

/-! ## Simple statements -/

theorem dottedName_leaves : ∀ (fuel : Nat) (tokens : List Lexeme),
    16 * tokens.length + 1 ≤ fuel → Leaves tokens.length (dottedName fuel tokens)
  | 0, _, hfuel => by omega
  | fuel + 1, tokens, hfuel => by
      rw [dottedName]
      refine (expectName_leaves tokens).bind ?_
      rintro ⟨name, rest⟩ hrest
      dsimp only at hrest ⊢
      split
      next hcurrent =>
        have hlength := length_tail hcurrent nofun
        refine (dottedName_leaves fuel rest.tail (by omega)).bind ?_
        rintro ⟨names, left⟩ hleft
        dsimp only at hleft
        exact Concludes.ok (by dsimp only; omega)
      next => exact Concludes.ok hrest

theorem imports_leaves : ∀ (fuel : Nat) (tokens : List Lexeme),
    16 * tokens.length + 2 ≤ fuel → Leaves tokens.length (imports fuel tokens)
  | 0, _, hfuel => by omega
  | fuel + 1, tokens, hfuel => by
      rw [imports]
      refine (dottedName_leaves fuel tokens (by omega)).bind ?_
      rintro ⟨path, rest⟩ hrest
      dsimp only at hrest ⊢
      split
      next hcurrent =>
        have hlength := length_tail hcurrent nofun
        refine (imports_leaves fuel rest.tail (by omega)).bind ?_
        rintro ⟨others, left⟩ hleft
        dsimp only at hleft
        exact Concludes.ok (by dsimp only; omega)
      next => exact Concludes.ok hrest

theorem raised_leaves (fuel depth : Nat) (tokens : List Lexeme)
    (hfuel : 16 * tokens.length + 12 ≤ fuel) :
    Leaves (tokens.length + 1) (raised limits fuel depth tokens) := by
  unfold raised
  split
  case h_5 =>
    refine (expectName_leaves tokens).bind fun (kind, rest) hrest => ?_
    dsimp only at hrest ⊢
    split
    next hcurrent =>
      have hlength := length_tail hcurrent nofun
      split
      next hclose =>
        have hclosed := length_tail hclose nofun
        exact Concludes.ok (by dsimp only; omega)
      next =>
        refine (expression_leaves fuel depth rest.tail (by omega)).bind
          fun (message, others) hothers => ?_
        dsimp only at hothers ⊢
        refine (expect_concludes .rightParen nofun _).bind fun left hleft => Concludes.ok ?_
        have htail := List.length_tail (l := others)
        dsimp only
        split at hleft <;> omega
    next => exact Concludes.ok (by dsimp only; omega)
  all_goals exact Concludes.ok (Nat.lt_succ_self _)

theorem asserted_leaves (fuel depth : Nat) (tokens : List Lexeme)
    (hfuel : 16 * tokens.length + 12 ≤ fuel) :
    Leaves tokens.length (asserted limits fuel depth tokens) := by
  unfold asserted
  refine (expression_leaves fuel depth tokens hfuel).bind fun (condition, rest) hrest => ?_
  dsimp only at hrest ⊢
  split
  next hcurrent =>
    have hlength := length_tail hcurrent nofun
    refine (expression_leaves fuel depth rest.tail (by omega)).bind fun (message, left) hleft => ?_
    dsimp only at hleft
    exact Concludes.ok (by dsimp only; omega)
  next => exact Concludes.ok hrest

theorem assignment_leaves (fuel depth : Nat) (tokens : List Lexeme)
    (hfuel : 16 * tokens.length + 12 ≤ fuel) :
    Leaves tokens.length (assignment limits fuel depth tokens) := by
  unfold assignment
  refine (expression_leaves fuel depth tokens hfuel).bind fun (e, rest) hrest => ?_
  dsimp only at hrest ⊢
  split
  next hcurrent =>
    have hlength := length_tail hcurrent nofun
    split
    · refine (expression_leaves fuel depth rest.tail (by omega)).bind fun (value, left) hleft => ?_
      dsimp only at hleft
      exact Concludes.ok (by dsimp only; omega)
    · exact Concludes.refused _
  next => exact Concludes.ok hrest

theorem simple_leaves (fuel depth : Nat) (tokens : List Lexeme)
    (hfuel : 16 * tokens.length + 12 ≤ fuel) :
    Leaves tokens.length (simple limits fuel depth tokens) := by
  unfold simple
  split
  next hcurrent =>
    have hlength := length_tail hcurrent nofun
    exact Concludes.ok (by dsimp only; omega)
  next hcurrent =>
    have hlength := length_tail hcurrent nofun
    exact (raised_leaves fuel depth tokens.tail (by omega)).map fun _ hread => by
      dsimp only at hread ⊢; omega
  next hcurrent =>
    have hlength := length_tail hcurrent nofun
    exact (asserted_leaves fuel depth tokens.tail (by omega)).map fun _ hread => by
      dsimp only at hread ⊢; omega
  next hcurrent =>
    have hlength := length_tail hcurrent nofun
    exact (imports_leaves fuel tokens.tail (by omega)).mono fun _ hread => by omega
  next => exact (assignment_leaves fuel depth tokens hfuel).map fun _ hread => hread

theorem simpleLine_leaves : ∀ (fuel depth : Nat) (tokens : List Lexeme),
    16 * tokens.length + 13 ≤ fuel → Leaves tokens.length (simpleLine limits fuel depth tokens)
  | 0, _, _, hfuel => by omega
  | fuel + 1, depth, tokens, hfuel => by
      rw [simpleLine]
      refine (simple_leaves fuel depth tokens (by omega)).bind ?_
      rintro ⟨first, rest⟩ hrest
      have htail := List.length_tail (l := rest)
      have htail' := List.length_tail (l := rest.tail)
      dsimp only at hrest ⊢
      split
      case h_4 =>
        split
        case h_3 =>
          refine (simpleLine_leaves fuel depth rest.tail (by omega)).bind ?_
          rintro ⟨others, left⟩ hleft
          dsimp only at hleft
          exact Concludes.ok (by dsimp only; omega)
        all_goals exact Concludes.ok (by dsimp only; omega)
      case h_5 => exact unexpected_concludes rest
      all_goals exact Concludes.ok (by dsimp only; omega)

/-! ## Compound statements -/

mutual

theorem statement_leaves : ∀ (fuel depth : Nat) (tokens : List Lexeme),
    16 * tokens.length + 14 ≤ fuel → Leaves tokens.length (statement limits fuel depth tokens)
  | 0, _, _, hfuel => by omega
  | fuel + 1, depth, tokens, hfuel => by
      rw [statement]
      split
      next hcurrent =>
        have hlength := length_tail hcurrent nofun
        refine (expression_leaves fuel depth tokens.tail (by omega)).bind
          fun (condition, rest) hrest => ?_
        dsimp only at hrest ⊢
        refine (suite_leaves fuel depth rest (by omega)).bind fun (body, others) hothers => ?_
        dsimp only at hothers ⊢
        refine (alternatives_leaves fuel depth others (by omega)).bind
          fun (choices, left) hleft => ?_
        dsimp only at hleft
        exact Concludes.ok (by dsimp only; omega)
      next hcurrent =>
        have hlength := length_tail hcurrent nofun
        refine (expectName_leaves tokens.tail).bind fun (name, rest) hrest => ?_
        dsimp only at hrest ⊢
        refine (expect_concludes .isIn nofun rest).bind fun following hfollowing => ?_
        refine (expression_leaves fuel depth following (by omega)).bind
          fun (iterable, others) hothers => ?_
        dsimp only at hothers ⊢
        refine (suite_leaves fuel depth others (by omega)).bind fun (body, left) hleft => ?_
        dsimp only at hleft
        exact Concludes.ok (by dsimp only; omega)
      next => exact simpleLine_leaves fuel depth tokens (by omega)

theorem alternatives_leaves : ∀ (fuel depth : Nat) (tokens : List Lexeme),
    16 * tokens.length + 1 ≤ fuel →
      Leaves (tokens.length + 1) (alternatives limits fuel depth tokens)
  | 0, _, _, hfuel => by omega
  | fuel + 1, depth, tokens, hfuel => by
      rw [alternatives]
      split
      next hcurrent =>
        have hlength := length_tail hcurrent nofun
        refine (expression_leaves fuel depth tokens.tail (by omega)).bind
          fun (condition, rest) hrest => ?_
        dsimp only at hrest ⊢
        refine (suite_leaves fuel depth rest (by omega)).bind fun (body, others) hothers => ?_
        dsimp only at hothers ⊢
        refine (alternatives_leaves fuel depth others (by omega)).bind
          fun (choices, left) hleft => ?_
        dsimp only at hleft
        exact Concludes.ok (by dsimp only; omega)
      next hcurrent =>
        have hlength := length_tail hcurrent nofun
        refine (suite_leaves fuel depth tokens.tail (by omega)).bind fun (body, left) hleft => ?_
        dsimp only at hleft
        exact Concludes.ok (by dsimp only; omega)
      next => exact Concludes.ok (Nat.lt_succ_self _)

theorem suite_leaves : ∀ (fuel depth : Nat) (tokens : List Lexeme),
    16 * tokens.length + 1 ≤ fuel → Leaves tokens.length (suite limits fuel depth tokens)
  | 0, _, _, hfuel => by omega
  | fuel + 1, depth, tokens, hfuel => by
      rw [suite]
      refine (expect_concludes .colon nofun tokens).bind fun rest hrest => ?_
      have htail := List.length_tail (l := rest)
      split
      · refine (expect_concludes .indent nofun rest.tail).bind fun others hothers => ?_
        refine (enter_concludes depth).bind fun depth _ => ?_
        exact (block_leaves fuel depth others (by omega)).mono fun _ hread => by omega
      · exact (simpleLine_leaves fuel depth rest (by omega)).mono fun _ hread => by omega

theorem block_leaves : ∀ (fuel depth : Nat) (tokens : List Lexeme),
    16 * tokens.length + 15 ≤ fuel →
      Leaves (tokens.length + 1) (block limits fuel depth tokens)
  | 0, _, _, hfuel => by omega
  | fuel + 1, depth, tokens, hfuel => by
      rw [block]
      split
      next hcurrent =>
        have hlength := length_tail hcurrent nofun
        exact Concludes.ok (by dsimp only; omega)
      next => exact Concludes.ok (Nat.lt_succ_self _)
      next =>
        refine (statement_leaves fuel depth tokens (by omega)).bind fun (first, rest) hrest => ?_
        have hskip := skipNewlines_length rest
        dsimp only at hrest ⊢
        refine (block_leaves fuel depth (skipNewlines rest) (by omega)).bind
          fun (others, left) hleft => ?_
        dsimp only at hleft
        exact Concludes.ok (by dsimp only; omega)

end

/-! ## Programs -/

theorem program_concludes : ∀ (fuel : Nat) (tokens : List Lexeme),
    16 * tokens.length + 15 ≤ fuel → Concludes (fun _ => True) (program limits fuel tokens)
  | 0, _, hfuel => by omega
  | fuel + 1, tokens, hfuel => by
      rw [program]
      split
      · exact Concludes.ok trivial
      · refine (statement_leaves fuel 0 tokens (by omega)).bind fun (first, rest) hrest => ?_
        have hskip := skipNewlines_length rest
        dsimp only at hrest ⊢
        refine (program_concludes fuel (skipNewlines rest) (by omega)).bind fun others _ => ?_
        exact Concludes.ok trivial

/-- What is read with any larger budget is read with the budget that the tokens are granted. -/
theorem program_budget {extra : Nat} {before : List Statement}
    (hprogram : program limits (extra + budget tokens) (skipNewlines tokens) = .ok before) :
    program limits (budget tokens) (skipNewlines tokens) = .ok before := by
  have hskip := skipNewlines_length tokens
  have hconcludes : Concludes (fun _ => True)
      (program limits (budget tokens) (skipNewlines tokens)) :=
    program_concludes _ _ (by unfold budget; omega)
  have hwider : Wider (· = .exhausted) limits limits extra :=
    ⟨.inl rfl, fun depth => Persists.refl _⟩
  have hpersists := hwider.program (budget tokens) (skipNewlines tokens)
  rw [← hpersists.eq fun halt hhalt hexhausted => hconcludes.1 halt hhalt hexhausted]
  exact hprogram

end Parser

end SchemaGuard
