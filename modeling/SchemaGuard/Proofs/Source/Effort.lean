import SchemaGuard.Proofs.Source.Phrases

/-! # Paying for calls

Every call weighs less than the call that makes it: either it has fewer tokens before it, or it is
for a rule of a lower rank. A call is also paid for in advance, by the tokens before it, and what it
leaves of them is paid back. A price of about twice the weight is enough for the call itself and for
all calls that it leads to, as is shown here for the plan of each phrase.
-/

namespace SchemaGuard.Parser

open Outcome

/-! ## Weights -/

namespace Rule

/-- The rank of a rule among those that can call one another without a token in between. -/
def rank : Rule → Nat
  | chainFrom _ | comparisons | suffixes | primary | dottedName | alternatives | suite => 1
  | signed | imports => 2
  | operand level => level.calls
  | chain level => level.calls + 1
  | negation => 7
  | expression => 12
  | items | parenthesised | simpleLine => 13
  | statement => 14
  | block | program => 15

/-- The tokens that a rule takes at least. -/
def least : Rule → Nat
  | chainFrom _ | comparisons | suffixes | alternatives | block | program => 0
  | _ => 1

theorem rank_pos (rule : Rule) : 1 ≤ rule.rank := by
  rcases rule with _ | level | level | level | _ <;> first | cases level <;> decide | decide

theorem rank_le (rule : Rule) : rule.rank ≤ 15 := by
  rcases rule with _ | level | level | level | _ <;> first | cases level <;> decide | decide

end Rule

namespace Phrase

/-- The weight of a call for a phrase: sixteen for each token, and the rank of the rule. -/
def weight (phrase : Phrase) (tokens : List Lexeme) : Nat :=
  16 * tokens.length + phrase.rule.rank

/-- What is left when a phrase has been read, with the tokens that have been taken anyway. -/
def kept (phrase : Phrase) (found : phrase.Value × List Lexeme) : Nat :=
  found.2.length + phrase.rule.least

/-- What a call for a phrase has for the calls that it leads to. -/
def credit (phrase : Phrase) (tokens : List Lexeme) : Nat :=
  2 * phrase.weight tokens - 2

/-- What a call for a phrase is paid in advance, itself included. -/
def price (phrase : Phrase) (tokens : List Lexeme) : Nat :=
  phrase.credit tokens + 1

end Phrase

theorem Bracket.close_ne_eof (bracket : Bracket) : bracket.close ≠ .eof := by
  cases bracket <;> decide

/-! ## Plans that are paid for -/

namespace Plan

variable {α β : Type} {own credit : Nat} {post : α → Nat → Prop}

/-- Every call of a plan weighs less than a bound. A credit pays for the calls, for each token that
they leave thirty-two are paid back, and the credit at the end has a property. -/
def Affords (own : Nat) (post : α → Nat → Prop) : Nat → Plan α → Prop
  | credit, done a => post a credit
  | _, stop _ => True
  | credit, call phrase tokens next =>
      phrase.weight tokens < own ∧ phrase.price tokens ≤ credit ∧
        ∀ found left, phrase.kept found ≤ tokens.length →
          credit + 32 * phrase.kept found ≤ left + phrase.price tokens →
            (next found).Affords own post left

/-- The credit at the end pays back what is left. -/
abbrev Repays (least : Nat) (found : α × List Lexeme) (credit : Nat) : Prop :=
  32 * (found.2.length + least) ≤ credit

/-- A plan for a rule of a rank affords its calls with the credit of the rule. -/
abbrev Paid (plan : Plan (α × List Lexeme)) (rank least : Nat) (tokens : List Lexeme) : Prop :=
  plan.Affords (16 * tokens.length + rank) (Repays least) (2 * (16 * tokens.length + rank) - 2)

theorem Affords.pure {least : Nat} {value : α} {rest : List Lexeme}
    (hcredit : 32 * (rest.length + least) ≤ credit) :
    (Pure.pure (value, rest) : Plan (α × List Lexeme)).Affords own (Repays least) credit :=
  hcredit

/-- A statement leaves less than a bound, and the credit pays it back. -/
abbrev RepaysBelow (bound : Nat) (found : α × List Lexeme) (credit : Nat) : Prop :=
  found.2.length < bound ∧ 32 * (found.2.length + 1) ≤ credit

theorem Affords.below {bound : Nat} {value : α} {rest : List Lexeme} (hrest : rest.length < bound)
    (hcredit : 32 * (rest.length + 1) ≤ credit) :
    (Pure.pure (value, rest) : Plan (α × List Lexeme)).Affords own (RepaysBelow bound) credit :=
  ⟨hrest, hcredit⟩

theorem Affords.stop (halt : Halt) : (stop halt : Plan α).Affords own post credit := trivial

theorem Affords.take {outcome : Except Halt α} {next : α → Plan β} {post : β → Nat → Prop}
    (hnext : ∀ a, outcome = .ok a → (next a).Affords own post credit) :
    (take outcome >>= next).Affords own post credit := by
  cases outcome with
  | ok a => exact hnext a rfl
  | error halt => exact trivial

theorem Affords.bind {plan : Plan α} {next : α → Plan β} {middle : α → Nat → Prop}
    {post : β → Nat → Prop} (hplan : plan.Affords own middle credit)
    (hnext : ∀ a left, middle a left → (next a).Affords own post left) :
    (plan >>= next).Affords own post credit := by
  induction plan generalizing credit with
  | done a => exact hnext a credit hplan
  | stop halt => exact trivial
  | call phrase tokens more ih =>
      obtain ⟨hweight, hprice, hmore⟩ := hplan
      exact ⟨hweight, hprice, fun found left hkept hleft => ih found (hmore found left hkept hleft)⟩

/-- A call for a phrase of a known rule. -/
theorem Affords.ask {phrase : Phrase} {tokens : List Lexeme}
    {next : phrase.Value × List Lexeme → Plan α} (rank least : Nat)
    (hrule : phrase.rule.rank = rank ∧ phrase.rule.least = least)
    (hweight : 16 * tokens.length + rank < own)
    (hprice : 32 * tokens.length + 2 * rank ≤ credit + 1)
    (hnext : ∀ value rest left, rest.length + least ≤ tokens.length →
      credit + 32 * (rest.length + least) + 1 ≤ left + 32 * tokens.length + 2 * rank →
        (next (value, rest)).Affords own post left) :
    (ask phrase tokens >>= next).Affords own post credit := by
  obtain ⟨rfl, rfl⟩ := hrule
  have hpos := phrase.rule.rank_pos
  rw [ask_bind]
  have hpays : phrase.price tokens + 1 = 2 * (16 * tokens.length + phrase.rule.rank) := by
    unfold Phrase.price Phrase.credit Phrase.weight
    omega
  refine ⟨hweight, by omega, ?_⟩
  rintro ⟨value, rest⟩ left hkept hleft
  exact hnext value rest left hkept (by unfold Phrase.kept at hleft; dsimp only at hleft; omega)

/-- A call for a phrase of a known rule with nothing after it. -/
theorem Affords.last {phrase : Phrase} {tokens : List Lexeme} {kept : Nat} (rank least : Nat)
    (hrule : phrase.rule.rank = rank ∧ phrase.rule.least = least)
    (hweight : 16 * tokens.length + rank < own)
    (hprice : 32 * tokens.length + 2 * rank ≤ credit + 1)
    (hkept : ∀ rest left, rest + least ≤ tokens.length →
      credit + 32 * (rest + least) + 1 ≤ left + 32 * tokens.length + 2 * rank →
        32 * (rest + kept) ≤ left) :
    (Plan.ask phrase tokens).Affords own (Repays kept) credit := by
  have hask : (Plan.ask phrase tokens >>= done).Affords own (Repays kept) credit :=
    .ask rank least hrule hweight hprice fun _ rest => hkept rest.length
  exact hask

variable {limits : ParseLimits}

theorem expression_paid (depth : Nat) (tokens : List Lexeme) :
    (Plan.expression limits depth tokens).Paid 12 1 tokens := by
  unfold Plan.expression
  refine .take fun depth _ => ?_
  refine .ask 11 1 ⟨rfl, rfl⟩ (by omega) (by omega) fun value rest left hrest hleft => ?_
  dsimp only
  split
  next hcurrent =>
    have hlength := length_tail hcurrent (by simp)
    refine .ask 11 1 ⟨rfl, rfl⟩ (by omega) (by omega) fun condition others left hothers hleft => ?_
    refine .take fun following hfollowing => ?_
    have helse := (expect_concludes .elseWord (by simp) others).2 following hfollowing
    refine .ask 12 1 ⟨rfl, rfl⟩ (by omega) (by omega) fun other last left hlast hleft => ?_
    exact .pure (by dsimp only; omega)
  next => exact .pure (by omega)

theorem chain_paid (level : Level) (depth : Nat) (tokens : List Lexeme) :
    (Plan.chain level depth tokens).Paid (level.calls + 1) 1 tokens := by
  unfold Plan.chain
  refine .ask level.calls 1 ⟨rfl, rfl⟩ (by omega) (by omega)
    fun left rest credit hrest hcredit => ?_
  exact .last 1 0 ⟨rfl, rfl⟩ (by omega) (by omega) (by omega)

theorem chainFrom_paid (level : Level) (depth : Nat) (left : Expr) (tokens : List Lexeme) :
    (Plan.chainFrom level depth left tokens).Paid 1 0 tokens := by
  unfold Plan.chainFrom
  split
  next build hbuild =>
    have hlength := length_tail rfl (ne_eof_of_operator hbuild)
    have hcalls := level.calls_le
    refine .ask level.calls 1 ⟨rfl, rfl⟩ (by omega) (by omega)
      fun right rest credit hrest hcredit => ?_
    exact .last 1 0 ⟨rfl, rfl⟩ (by omega) (by omega) (by omega)
  next => exact .pure (by omega)

theorem operand_paid (level : Level) (depth : Nat) (tokens : List Lexeme) :
    (Plan.operand level depth tokens).Paid level.calls 1 tokens := by
  unfold Plan.operand
  cases level with
  | disjunction =>
    rw [Level.calls]
    exact .last 9 1 ⟨rfl, rfl⟩ (by omega) (by omega) (by omega)
  | conjunction =>
    rw [Level.calls]
    exact .last 7 1 ⟨rfl, rfl⟩ (by omega) (by omega) (by omega)
  | sum =>
    rw [Level.calls]
    exact .last 4 1 ⟨rfl, rfl⟩ (by omega) (by omega) (by omega)
  | term =>
    rw [Level.calls]
    exact .last 2 1 ⟨rfl, rfl⟩ (by omega) (by omega) (by omega)

theorem negation_paid (depth : Nat) (tokens : List Lexeme) :
    (Plan.negation limits depth tokens).Paid 7 1 tokens := by
  unfold Plan.negation
  split
  next hcurrent =>
    have hlength := length_tail hcurrent (by simp)
    refine .take fun depth _ => ?_
    refine .ask 7 1 ⟨rfl, rfl⟩ (by omega) (by omega) fun inner rest left hrest hleft => ?_
    exact .pure (by omega)
  next =>
    refine .ask 6 1 ⟨rfl, rfl⟩ (by omega) (by omega) fun first rest left hrest hleft => ?_
    refine .ask 1 0 ⟨rfl, rfl⟩ (by omega) (by omega) fun links others left hothers hleft => ?_
    dsimp only
    split <;> exact .pure (by omega)

theorem comparisons_paid (depth : Nat) (tokens : List Lexeme) :
    (Plan.comparisons depth tokens).Paid 1 0 tokens := by
  unfold Plan.comparisons
  split
  next op following hcompare =>
    have hlength := comparison?_length hcompare
    refine .ask 6 1 ⟨rfl, rfl⟩ (by omega) (by omega) fun right rest left hrest hleft => ?_
    refine .ask 1 0 ⟨rfl, rfl⟩ (by omega) (by omega) fun links others left hothers hleft => ?_
    exact .pure (by omega)
  next => exact .pure (by omega)

theorem signed_paid (depth : Nat) (tokens : List Lexeme) :
    (Plan.signed limits depth tokens).Paid 2 1 tokens := by
  unfold Plan.signed
  split
  next hcurrent =>
    have hlength := length_tail hcurrent (by simp)
    refine .take fun depth _ => ?_
    refine .ask 2 1 ⟨rfl, rfl⟩ (by omega) (by omega) fun inner rest left hrest hleft => ?_
    exact .pure (by omega)
  next hcurrent =>
    have hlength := length_tail hcurrent (by simp)
    refine .take fun depth _ => ?_
    exact .last 2 1 ⟨rfl, rfl⟩ (by omega) (by omega) (by omega)
  next =>
    refine .ask 1 1 ⟨rfl, rfl⟩ (by omega) (by omega) fun base rest left hrest hleft => ?_
    exact .last 1 0 ⟨rfl, rfl⟩ (by omega) (by omega) (by omega)

theorem suffixes_paid (depth : Nat) (base : Expr) (tokens : List Lexeme) :
    (Plan.suffixes depth base tokens).Paid 1 0 tokens := by
  unfold Plan.suffixes
  split
  next hcurrent =>
    have hlength := length_tail hcurrent (by simp)
    refine .take fun found hname => ?_
    obtain ⟨name, rest⟩ := found
    have hrest := (expectName_leaves tokens.tail).2 _ hname
    dsimp only at hrest
    exact .last 1 0 ⟨rfl, rfl⟩ (by omega) (by omega) (by omega)
  next hcurrent =>
    have hlength := length_tail hcurrent (by simp)
    refine .ask 12 1 ⟨rfl, rfl⟩ (by omega) (by omega) fun position rest left hrest hleft => ?_
    refine .take fun following hfollowing => ?_
    have hclose := (expect_concludes .rightBracket (by simp) rest).2 following hfollowing
    exact .last 1 0 ⟨rfl, rfl⟩ (by omega) (by omega) (by omega)
  next hcurrent =>
    have hlength := length_tail hcurrent (by simp)
    refine .ask 13 1 ⟨rfl, rfl⟩ (by omega) (by omega) fun args rest left hrest hleft => ?_
    exact .last 1 0 ⟨rfl, rfl⟩ (by omega) (by omega) (by omega)
  next => exact .pure (by omega)

theorem items_paid (bracket : Bracket) (depth : Nat) (tokens : List Lexeme) :
    (Plan.items bracket depth tokens).Paid 13 1 tokens := by
  unfold Plan.items
  split
  next hcurrent =>
    have hlength := length_tail hcurrent bracket.close_ne_eof
    exact .pure (by omega)
  next =>
    refine .ask 12 1 ⟨rfl, rfl⟩ (by omega) (by omega) fun item rest left hrest hleft => ?_
    dsimp only
    split
    next hcurrent =>
      have hlength := length_tail hcurrent (by simp)
      refine .ask 13 1 ⟨rfl, rfl⟩ (by omega) (by omega) fun others last left hlast hleft => ?_
      exact .pure (by dsimp only; omega)
    next =>
      split
      next hcurrent =>
        have hlength := length_tail hcurrent bracket.close_ne_eof
        exact .pure (by omega)
      next => exact .stop _

theorem primary_paid (depth : Nat) (tokens : List Lexeme) :
    (Plan.primary limits depth tokens).Paid 1 1 tokens := by
  unfold Plan.primary
  split
  case h_5 hcurrent =>
    have hlength := adjacentStrings_length_lt hcurrent
    exact .pure (by omega)
  case h_8 hcurrent =>
    have hlength := length_tail hcurrent (by simp)
    refine .take fun depth _ => ?_
    exact .last 13 1 ⟨rfl, rfl⟩ (by omega) (by omega) (by omega)
  case h_9 hcurrent =>
    have hlength := length_tail hcurrent (by simp)
    refine .take fun depth _ => ?_
    refine .ask 13 1 ⟨rfl, rfl⟩ (by omega) (by omega) fun list rest left hrest hleft => ?_
    exact .pure (by omega)
  case h_10 => exact .stop _
  -- The others are a single token each.
  all_goals
    next hcurrent =>
      have hlength := length_tail hcurrent (by simp)
      exact .pure (by omega)

theorem parenthesised_paid (depth : Nat) (tokens : List Lexeme) :
    (Plan.parenthesised depth tokens).Paid 13 1 tokens := by
  unfold Plan.parenthesised
  split
  next hcurrent =>
    have hlength := length_tail hcurrent (by simp)
    exact .pure (by omega)
  next =>
    refine .ask 12 1 ⟨rfl, rfl⟩ (by omega) (by omega) fun first rest left hrest hleft => ?_
    dsimp only
    split
    next hcurrent =>
      have hlength := length_tail hcurrent (by simp)
      exact .pure (by omega)
    next hcurrent =>
      have hlength := length_tail hcurrent (by simp)
      refine .ask 13 1 ⟨rfl, rfl⟩ (by omega) (by omega) fun others last left hlast hleft => ?_
      exact .pure (by dsimp only; omega)
    next => exact .stop _

theorem dottedName_paid (tokens : List Lexeme) :
    (Plan.dottedName tokens).Paid 1 1 tokens := by
  unfold Plan.dottedName
  refine .take fun found hname => ?_
  obtain ⟨name, rest⟩ := found
  have hrest := (expectName_leaves tokens).2 _ hname
  dsimp only at hrest ⊢
  split
  next hcurrent =>
    have hlength := length_tail hcurrent (by simp)
    refine .ask 1 1 ⟨rfl, rfl⟩ (by omega) (by omega) fun names last left hlast hleft => ?_
    exact .pure (by dsimp only; omega)
  next => exact .pure (by omega)

theorem imports_paid (tokens : List Lexeme) :
    (Plan.imports tokens).Paid 2 1 tokens := by
  unfold Plan.imports
  refine .ask 1 1 ⟨rfl, rfl⟩ (by omega) (by omega) fun path rest left hrest hleft => ?_
  dsimp only
  split
  next hcurrent =>
    have hlength := length_tail hcurrent (by simp)
    refine .ask 2 1 ⟨rfl, rfl⟩ (by omega) (by omega) fun others last left hlast hleft => ?_
    exact .pure (by dsimp only; omega)
  next => exact .pure (by omega)

theorem raised_affords {depth : Nat} {tokens : List Lexeme} (hown : 16 * tokens.length + 12 < own)
    (hcredit : 32 * tokens.length + 32 ≤ credit) :
    (Plan.raised depth tokens).Affords own (RepaysBelow (tokens.length + 1)) credit := by
  unfold Plan.raised
  split
  case h_5 =>
    refine .take fun found hkind => ?_
    obtain ⟨kind, rest⟩ := found
    have hrest := (expectName_leaves tokens).2 _ hkind
    dsimp only at hrest ⊢
    split
    next hcurrent =>
      have hlength := length_tail hcurrent (by simp)
      split
      next hclose =>
        have hclosed := length_tail hclose (by simp)
        exact .below (by omega) (by omega)
      next =>
        refine .ask 12 1 ⟨rfl, rfl⟩ (by omega) (by omega)
          fun message others left hothers hleft => ?_
        dsimp only
        refine .take fun last hexpect => ?_
        have hlast := (expect_concludes .rightParen (by simp) _).2 last hexpect
        have htail := List.length_tail (l := others)
        exact .below (by split at hlast <;> omega) (by split at hlast <;> omega)
    next => exact .below (by omega) (by omega)
  all_goals exact .below (by omega) (by omega)

theorem asserted_affords {depth : Nat} {tokens : List Lexeme}
    (hown : 16 * tokens.length + 12 < own) (hcredit : 32 * tokens.length + 23 ≤ credit) :
    (Plan.asserted depth tokens).Affords own (RepaysBelow tokens.length) credit := by
  unfold Plan.asserted
  refine .ask 12 1 ⟨rfl, rfl⟩ (by omega) (by omega) fun condition rest left hrest hleft => ?_
  dsimp only
  split
  next hcurrent =>
    have hlength := length_tail hcurrent (by simp)
    refine .ask 12 1 ⟨rfl, rfl⟩ (by omega) (by omega) fun message last left hlast hleft => ?_
    exact .below (by dsimp only; omega) (by dsimp only; omega)
  next => exact .below (by omega) (by omega)

theorem assignment_affords {depth : Nat} {tokens : List Lexeme}
    (hown : 16 * tokens.length + 12 < own) (hcredit : 32 * tokens.length + 23 ≤ credit) :
    (Plan.assignment depth tokens).Affords own (RepaysBelow tokens.length) credit := by
  unfold Plan.assignment
  refine .ask 12 1 ⟨rfl, rfl⟩ (by omega) (by omega) fun e rest left hrest hleft => ?_
  dsimp only
  split
  next hcurrent =>
    have hlength := length_tail hcurrent (by simp)
    split
    · refine .ask 12 1 ⟨rfl, rfl⟩ (by omega) (by omega) fun value last left hlast hleft => ?_
      exact .below (by dsimp only; omega) (by dsimp only; omega)
    · exact .stop _
  next => exact .below (by omega) (by omega)

theorem simple_affords {depth : Nat} {tokens : List Lexeme} (hown : 16 * tokens.length + 12 < own)
    (hcredit : 32 * tokens.length + 24 ≤ credit) :
    (Plan.simple depth tokens).Affords own (RepaysBelow tokens.length) credit := by
  unfold Plan.simple
  dsimp only
  split
  next hcurrent =>
    have hlength := length_tail hcurrent (by simp)
    exact .below (by omega) (by omega)
  next hcurrent =>
    have hlength := length_tail hcurrent (by simp)
    rw [← hlength]
    exact (raised_affords (by omega) (by omega)).bind fun _ left hleft => hleft
  next hcurrent =>
    have hlength := length_tail hcurrent (by simp)
    refine (asserted_affords (by omega) (by omega)).bind fun found left hfound => ?_
    obtain ⟨hrest, hleft⟩ := hfound
    exact .below (by omega) hleft
  next hcurrent =>
    have hlength := length_tail hcurrent (by simp)
    have himports : (ask .imports tokens.tail >>= done).Affords own
        (RepaysBelow tokens.length) credit :=
      .ask 2 1 ⟨rfl, rfl⟩ (by omega) (by omega) fun statements rest left hrest hleft =>
        .below (by omega) (by omega)
    exact himports
  next => exact (assignment_affords (by omega) (by omega)).bind fun _ left hleft => hleft

theorem simpleLine_paid (depth : Nat) (tokens : List Lexeme) :
    (Plan.simpleLine depth tokens).Paid 13 1 tokens := by
  unfold Plan.simpleLine
  refine (simple_affords (by omega) (by omega)).bind fun found left hfound => ?_
  obtain ⟨first, rest⟩ := found
  obtain ⟨hrest, hleft⟩ := hfound
  have htail := List.length_tail (l := rest)
  have htail' := List.length_tail (l := rest.tail)
  dsimp only at hrest hleft ⊢
  split
  case h_4 hcurrent =>
    have hlength := length_tail hcurrent (by simp)
    split
    case h_3 =>
      refine .ask 13 1 ⟨rfl, rfl⟩ (by omega) (by omega) fun others last left hlast hleft => ?_
      exact .pure (by dsimp only; omega)
    all_goals exact .pure (by omega)
  case h_5 => exact .stop _
  all_goals exact .pure (by omega)

theorem statement_paid (depth : Nat) (tokens : List Lexeme) :
    (Plan.statement depth tokens).Paid 14 1 tokens := by
  unfold Plan.statement
  split
  next hcurrent =>
    have hlength := length_tail hcurrent (by simp)
    refine .ask 12 1 ⟨rfl, rfl⟩ (by omega) (by omega) fun condition rest left hrest hleft => ?_
    refine .ask 1 1 ⟨rfl, rfl⟩ (by omega) (by omega) fun body others left hothers hleft => ?_
    refine .ask 1 0 ⟨rfl, rfl⟩ (by omega) (by omega) fun choices last left hlast hleft => ?_
    exact .pure (by omega)
  next hcurrent =>
    have hlength := length_tail hcurrent (by simp)
    refine .take fun found hname => ?_
    obtain ⟨name, rest⟩ := found
    have hrest := (expectName_leaves tokens.tail).2 _ hname
    refine .take fun following hfollowing => ?_
    have hin := (expect_concludes .isIn (by simp) rest).2 following hfollowing
    dsimp only at hrest
    refine .ask 12 1 ⟨rfl, rfl⟩ (by omega) (by omega) fun iterable others left hothers hleft => ?_
    refine .ask 1 1 ⟨rfl, rfl⟩ (by omega) (by omega) fun body last left hlast hleft => ?_
    exact .pure (by omega)
  next => exact .last 13 1 ⟨rfl, rfl⟩ (by omega) (by omega) (by omega)

theorem alternatives_paid (depth : Nat) (tokens : List Lexeme) :
    (Plan.alternatives depth tokens).Paid 1 0 tokens := by
  unfold Plan.alternatives
  split
  next hcurrent =>
    have hlength := length_tail hcurrent (by simp)
    refine .ask 12 1 ⟨rfl, rfl⟩ (by omega) (by omega) fun condition rest left hrest hleft => ?_
    refine .ask 1 1 ⟨rfl, rfl⟩ (by omega) (by omega) fun body others left hothers hleft => ?_
    refine .ask 1 0 ⟨rfl, rfl⟩ (by omega) (by omega) fun choices last left hlast hleft => ?_
    exact .pure (by omega)
  next hcurrent =>
    have hlength := length_tail hcurrent (by simp)
    refine .ask 1 1 ⟨rfl, rfl⟩ (by omega) (by omega) fun body last left hlast hleft => ?_
    exact .pure (by omega)
  next => exact .pure (by omega)

theorem suite_paid (depth : Nat) (tokens : List Lexeme) :
    (Plan.suite limits depth tokens).Paid 1 1 tokens := by
  unfold Plan.suite
  refine .take fun rest hcolon => ?_
  have hrest := (expect_concludes .colon (by simp) tokens).2 rest hcolon
  split
  next hcurrent =>
    have hlength := length_tail hcurrent (by simp)
    refine .take fun inner hindent => ?_
    have hinner := (expect_concludes .indent (by simp) rest.tail).2 inner hindent
    refine .take fun depth _ => ?_
    exact .last 15 0 ⟨rfl, rfl⟩ (by omega) (by omega) (by omega)
  next => exact .last 13 1 ⟨rfl, rfl⟩ (by omega) (by omega) (by omega)

theorem block_paid (depth : Nat) (tokens : List Lexeme) :
    (Plan.block depth tokens).Paid 15 0 tokens := by
  unfold Plan.block
  split
  next hcurrent =>
    have hlength := length_tail hcurrent (by simp)
    exact .pure (by omega)
  next => exact .pure (by omega)
  next =>
    refine .ask 14 1 ⟨rfl, rfl⟩ (by omega) (by omega) fun first rest left hrest hleft => ?_
    have hskip := skipNewlines_length rest
    refine .ask 15 0 ⟨rfl, rfl⟩ (by omega) (by omega) fun others last left hlast hleft => ?_
    exact .pure (by omega)

theorem program_paid (tokens : List Lexeme) :
    (Plan.program tokens).Paid 15 0 tokens := by
  unfold Plan.program
  split
  next => exact .pure (by rw [List.length_nil]; omega)
  next =>
    refine .ask 14 1 ⟨rfl, rfl⟩ (by omega) (by omega) fun first rest left hrest hleft => ?_
    have hskip := skipNewlines_length rest
    refine .ask 15 0 ⟨rfl, rfl⟩ (by omega) (by omega) fun others last left hlast hleft => ?_
    exact .pure (by omega)

end Plan

/-- Every phrase has a plan that affords its calls. -/
theorem Phrase.plan_paid {limits : ParseLimits} (phrase : Phrase) (tokens : List Lexeme) :
    (phrase.plan limits tokens).Paid phrase.rule.rank phrase.rule.least tokens := by
  cases phrase with
  | expression depth => exact Plan.expression_paid depth tokens
  | chain level depth => exact Plan.chain_paid level depth tokens
  | chainFrom level depth left => exact Plan.chainFrom_paid level depth left tokens
  | operand level depth => exact Plan.operand_paid level depth tokens
  | negation depth => exact Plan.negation_paid depth tokens
  | comparisons depth => exact Plan.comparisons_paid depth tokens
  | signed depth => exact Plan.signed_paid depth tokens
  | suffixes depth base => exact Plan.suffixes_paid depth base tokens
  | items bracket depth => exact Plan.items_paid bracket depth tokens
  | primary depth => exact Plan.primary_paid depth tokens
  | parenthesised depth => exact Plan.parenthesised_paid depth tokens
  | dottedName => exact Plan.dottedName_paid tokens
  | imports => exact Plan.imports_paid tokens
  | simpleLine depth => exact Plan.simpleLine_paid depth tokens
  | statement depth => exact Plan.statement_paid depth tokens
  | alternatives depth => exact Plan.alternatives_paid depth tokens
  | suite depth => exact Plan.suite_paid depth tokens
  | block depth => exact Plan.block_paid depth tokens
  | program => exact Plan.program_paid tokens

end SchemaGuard.Parser
