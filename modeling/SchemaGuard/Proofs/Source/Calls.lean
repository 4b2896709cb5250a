import Mathlib.Logic.Relation
import SchemaGuard.Proofs.Source.Effort

/-! # The calls of a reading

With the budget that its tokens are granted every phrase has an outcome, and a larger budget does
not change it. So the plans, which know no budget, state equations that have one solution. Along the
calls that a phrase leads to the weights go down, so none of the rules comes up again before a token
has been taken; and the calls are no more than what a phrase has been paid for.
-/

namespace SchemaGuard.Parser

open Outcome

/-! ## Readings with a budget -/

variable {limits : ParseLimits}

theorem read_persists (limits : ParseLimits) (extra fuel : Nat) (phrase : Phrase)
    (tokens : List Lexeme) :
    Persists (· = .exhausted) (read limits fuel phrase tokens)
      (read limits (extra + fuel) phrase tokens) := by
  have hwider : Wider (· = .exhausted) limits limits extra :=
    ⟨.inl rfl, fun depth => Persists.refl _⟩
  cases phrase with
  | expression depth => exact hwider.expression fuel depth tokens
  | chain level depth => exact hwider.chain fuel level depth tokens
  | chainFrom level depth left => exact hwider.chainFrom fuel level depth left tokens
  | operand level depth => exact hwider.operand fuel level depth tokens
  | negation depth => exact hwider.negation fuel depth tokens
  | comparisons depth => exact hwider.comparisons fuel depth tokens
  | signed depth => exact hwider.signed fuel depth tokens
  | suffixes depth base => exact hwider.suffixes fuel depth base tokens
  | items bracket depth => exact hwider.items fuel bracket.close depth tokens
  | primary depth => exact hwider.primary fuel depth tokens
  | parenthesised depth => exact hwider.parenthesised fuel depth tokens
  | dottedName => exact hwider.dottedName fuel tokens
  | imports => exact hwider.imports fuel tokens
  | simpleLine depth => exact hwider.simpleLine fuel depth tokens
  | statement depth => exact hwider.statement fuel depth tokens
  | alternatives depth => exact hwider.alternatives fuel depth tokens
  | suite depth => exact hwider.suite fuel depth tokens
  | block depth => exact hwider.block fuel depth tokens
  | program => exact (hwider.program fuel tokens).map _

theorem read_concludes {fuel : Nat} (phrase : Phrase) (tokens : List Lexeme)
    (hfuel : phrase.weight tokens ≤ fuel) :
    Concludes (fun found => phrase.kept found ≤ tokens.length)
      (read limits fuel phrase tokens) := by
  -- A rule that may take no token leaves as many as there were.
  have hloop : ∀ {α : Type} {outcome : Except Halt (α × List Lexeme)},
      Leaves (tokens.length + 1) outcome →
        Concludes (fun found => found.2.length + 0 ≤ tokens.length) outcome :=
    fun houtcome => houtcome.mono fun _ hfound => Nat.le_of_lt_succ hfound
  cases phrase with
  | expression depth => exact expression_leaves fuel depth tokens hfuel
  | chain level depth => exact chain_leaves fuel level depth tokens hfuel
  | chainFrom level depth left => exact hloop (chainFrom_leaves fuel level depth left tokens hfuel)
  | operand level depth => exact operand_leaves fuel level depth tokens hfuel
  | negation depth => exact negation_leaves fuel depth tokens hfuel
  | comparisons depth => exact hloop (comparisons_leaves fuel depth tokens hfuel)
  | signed depth => exact signed_leaves fuel depth tokens hfuel
  | suffixes depth base => exact hloop (suffixes_leaves fuel depth base tokens hfuel)
  | items bracket depth =>
      exact items_leaves fuel bracket.close bracket.close_ne_eof depth tokens hfuel
  | primary depth => exact primary_leaves fuel depth tokens hfuel
  | parenthesised depth => exact parenthesised_leaves fuel depth tokens hfuel
  | dottedName => exact dottedName_leaves fuel tokens hfuel
  | imports => exact imports_leaves fuel tokens hfuel
  | simpleLine depth => exact simpleLine_leaves fuel depth tokens hfuel
  | statement depth => exact statement_leaves fuel depth tokens hfuel
  | alternatives depth => exact hloop (alternatives_leaves fuel depth tokens hfuel)
  | suite depth => exact suite_leaves fuel depth tokens hfuel
  | block depth => exact hloop (block_leaves fuel depth tokens hfuel)
  | program =>
      exact (program_concludes fuel tokens hfuel).map fun _ _ => Nat.zero_le _

theorem read_zero (phrase : Phrase) (tokens : List Lexeme) :
    read limits 0 phrase tokens = .error .exhausted := by
  cases phrase <;>
    simp only [read, expression, chain, chainFrom, operand, negation, comparisons, signed, suffixes,
      items, primary, parenthesised, dottedName, imports, simpleLine, statement, alternatives,
      suite, block, program, map_error]

theorem Phrase.weight_le (phrase : Phrase) (tokens : List Lexeme) :
    phrase.weight tokens ≤ budget tokens := by
  have hrank := phrase.rule.rank_le
  unfold weight budget
  omega

/-- The outcome of a phrase, with the budget that the tokens are granted. -/
def answer (limits : ParseLimits) : Reader :=
  fun phrase tokens => read limits (budget tokens) phrase tokens

theorem answer_concludes (phrase : Phrase) (tokens : List Lexeme) :
    Concludes (fun found => phrase.kept found ≤ tokens.length) (answer limits phrase tokens) :=
  read_concludes phrase tokens (phrase.weight_le tokens)

theorem answer_ne_exhausted (phrase : Phrase) (tokens : List Lexeme) :
    answer limits phrase tokens ≠ .error .exhausted :=
  fun hexhausted => (answer_concludes phrase tokens).1 _ hexhausted rfl

theorem read_add {fuel : Nat} {phrase : Phrase} {tokens : List Lexeme}
    (hfuel : phrase.weight tokens ≤ fuel) (extra : Nat) :
    read limits (extra + fuel) phrase tokens = read limits fuel phrase tokens :=
  (read_persists limits extra fuel phrase tokens).eq
    fun halt hhalt => (read_concludes phrase tokens hfuel).1 halt hhalt

/-- Every budget that is not less than the weight of a phrase leads to the same outcome. -/
theorem read_eq_answer {fuel : Nat} {phrase : Phrase} {tokens : List Lexeme}
    (hfuel : phrase.weight tokens ≤ fuel) :
    read limits fuel phrase tokens = answer limits phrase tokens := by
  rw [answer, ← read_add hfuel (budget tokens), Nat.add_comm]
  exact read_add (phrase.weight_le tokens) fuel

/-- Readers that leave no more tokens than a phrase permits. -/
def Reader.Keeps (reader : Reader) : Prop :=
  ∀ phrase tokens found, reader phrase tokens = .ok found → phrase.kept found ≤ tokens.length

theorem answer_keeps : (answer limits).Keeps :=
  fun phrase tokens => (answer_concludes phrase tokens).2

/-- What is read with any budget is the outcome of the phrase. -/
theorem answer_of_read {fuel : Nat} {phrase : Phrase} {tokens : List Lexeme}
    {found : phrase.Value × List Lexeme} (hread : read limits fuel phrase tokens = .ok found) :
    answer limits phrase tokens = .ok found := by
  rw [← read_eq_answer (Nat.le_add_right (phrase.weight tokens) fuel)]
  exact (read_persists limits (phrase.weight tokens) fuel phrase tokens).ok hread

theorem read_keeps (fuel : Nat) : (read limits fuel).Keeps :=
  fun phrase tokens found hread => answer_keeps phrase tokens found (answer_of_read hread)

/-! ## What a plan comes to -/

namespace Plan

variable {α : Type} {own credit : Nat} {post : α → Nat → Prop} {plan : Plan α}

/-- Readers that agree on all that weighs less carry out a plan in the same way. -/
theorem answered_congr {reader reader' : Reader} (hplan : plan.Affords own post credit)
    (hkeeps : reader.Keeps) (hsame : ∀ phrase tokens, phrase.weight tokens < own →
      reader phrase tokens = reader' phrase tokens) :
    plan.answered reader = plan.answered reader' := by
  induction plan generalizing credit with
  | done a => rfl
  | stop halt => rfl
  | call phrase tokens next ih =>
      obtain ⟨hweight, hprice, hnext⟩ := hplan
      refine bind_congr (hsame phrase tokens hweight) fun found hfound => ?_
      exact ih found (hnext found (credit + 32 * phrase.kept found)
        (hkeeps phrase tokens found hfound) (Nat.le_add_right _ _))

/-- The calls that a plan makes where a reader answers them. -/
inductive Makes (reader : Reader) : Plan α → Phrase → List Lexeme → Prop
  | here {phrase : Phrase} {tokens : List Lexeme} {next : phrase.Value × List Lexeme → Plan α} :
      Makes reader (call phrase tokens next) phrase tokens
  | later {phrase : Phrase} {tokens : List Lexeme} {next : phrase.Value × List Lexeme → Plan α}
      {found : phrase.Value × List Lexeme} {called : Phrase} {rest : List Lexeme}
      (hread : reader phrase tokens = .ok found) (hmakes : Makes reader (next found) called rest) :
      Makes reader (call phrase tokens next) called rest

section

variable {reader : Reader} {called : Phrase} {rest : List Lexeme}

@[simp] theorem not_makes_stop (halt : Halt) :
    ¬(stop halt : Plan α).Makes reader called rest := by
  rintro ⟨⟩

@[simp] theorem not_makes_take (outcome : Except Halt α) :
    ¬(take outcome).Makes reader called rest := by
  cases outcome <;> rintro ⟨⟩

theorem makes_call_iff {phrase : Phrase} {tokens : List Lexeme}
    {next : phrase.Value × List Lexeme → Plan α} :
    (call phrase tokens next).Makes reader called rest ↔
      (called = phrase ∧ rest = tokens) ∨
        ∃ found, reader phrase tokens = .ok found ∧ (next found).Makes reader called rest := by
  constructor
  · rintro (_ | ⟨hread, hmakes⟩)
    · exact .inl ⟨rfl, rfl⟩
    · exact .inr ⟨_, hread, hmakes⟩
  · rintro (⟨rfl, rfl⟩ | ⟨found, hread, hmakes⟩)
    · exact .here
    · exact .later hread hmakes

-- As for the outcome of a call, the type of what is found is no key.
@[simp] theorem makes_ask_iff {phrase : Phrase} {tokens : List Lexeme} :
    @Makes (no_index (phrase.Value × List Lexeme)) reader (ask phrase tokens) called rest ↔
      called = phrase ∧ rest = tokens := by
  refine makes_call_iff.trans (or_iff_left ?_)
  rintro ⟨found, _, ⟨⟩⟩

/-- A plan in two parts makes the calls of the first, and then those of the second. -/
@[simp] theorem makes_bind_iff {β : Type} {plan : Plan α} {next : α → Plan β} :
    (plan >>= next).Makes reader called rest ↔
      plan.Makes reader called rest ∨
        ∃ a, plan.answered reader = .ok a ∧ (next a).Makes reader called rest := by
  induction plan with
  | done a =>
      have hdone : ¬(done a).Makes reader called rest := by rintro ⟨⟩
      simp [answered, hdone]
  | stop halt => simp [answered]
  | call phrase tokens more ih =>
      rw [call_bind, makes_call_iff, makes_call_iff, or_assoc]
      refine or_congr_right ?_
      cases hread : reader phrase tokens with
      | error halt => simp [answered, hread]
      | ok found => simp [answered, hread, ih]

/-- What follows a call is done with what has been found. -/
theorem makes_ask_bind_iff {phrase : Phrase} {tokens : List Lexeme}
    {next : phrase.Value × List Lexeme → Plan α} :
    (ask phrase tokens >>= next).Makes reader called rest ↔
      (called = phrase ∧ rest = tokens) ∨
        ∃ value left, reader phrase tokens = .ok (value, left) ∧
          (next (value, left)).Makes reader called rest := by
  rw [ask_bind, makes_call_iff, Prod.exists]

theorem makes_take_bind_iff {β : Type} {outcome : Except Halt β} {next : β → Plan α} :
    (take outcome >>= next).Makes reader called rest ↔
      ∃ a, outcome = .ok a ∧ (next a).Makes reader called rest := by
  rw [makes_bind_iff, or_iff_right (not_makes_take outcome), answered_take]

end

theorem Makes.weight_lt {reader : Reader} {called : Phrase} {rest : List Lexeme}
    (hmakes : plan.Makes reader called rest) (hplan : plan.Affords own post credit)
    (hkeeps : reader.Keeps) : called.weight rest < own := by
  induction hmakes generalizing credit with
  | here => exact hplan.1
  | @later phrase tokens next found called rest hread _ ih =>
      exact ih (hplan.2.2 found (credit + 32 * phrase.kept found)
        (hkeeps phrase tokens found hread) (Nat.le_add_right _ _))

/-- The number of calls that a plan makes and leads to, from the number for each of them. -/
def count (reader : Reader) (calls : Phrase → List Lexeme → Nat) : Plan α → Nat
  | done _ => 0
  | stop _ => 0
  | call phrase tokens next =>
      calls phrase tokens +
        match reader phrase tokens with
        | .ok found => (next found).count reader calls
        | .error _ => 0

/-- Where each call is worth its price, a plan keeps to its credit. -/
theorem count_le {reader : Reader} {calls : Phrase → List Lexeme → Nat} (hkeeps : reader.Keeps)
    (hcalls : ∀ phrase tokens, calls phrase tokens ≤ phrase.price tokens ∧
      Yields (fun found => calls phrase tokens + 32 * phrase.kept found ≤ phrase.price tokens)
        (reader phrase tokens))
    (hplan : plan.Affords own post credit) :
    plan.count reader calls ≤ credit ∧
      Yields (fun a => ∃ left, post a left ∧ plan.count reader calls + left ≤ credit)
        (plan.answered reader) := by
  induction plan generalizing credit with
  | done a => exact ⟨Nat.zero_le _, (Yields.ok_iff a).mpr ⟨credit, hplan, by simp [count]⟩⟩
  | stop halt => exact ⟨Nat.zero_le _, Yields.error halt⟩
  | call phrase tokens next ih =>
      obtain ⟨hweight, hprice, hnext⟩ := hplan
      obtain ⟨hcost, hback⟩ := hcalls phrase tokens
      rw [count, answered]
      cases hread : reader phrase tokens with
      | error halt => exact ⟨Nat.le_trans hcost hprice, Yields.error halt⟩
      | ok found =>
          have hpaid := hback found hread
          obtain ⟨hcount, hyields⟩ := ih found (hnext found
            (credit + 32 * phrase.kept found - phrase.price tokens)
            (hkeeps phrase tokens found hread) (by omega))
          dsimp only
          refine ⟨by omega, fun a ha => ?_⟩
          obtain ⟨left, hpost, hleft⟩ := hyields a ha
          exact ⟨left, hpost, by omega⟩

end Plan

/-! ## Outcomes without a budget -/

/-- The outcomes solve the equations that the plans state. -/
theorem answer_eq (phrase : Phrase) (tokens : List Lexeme) :
    answer limits phrase tokens = (phrase.plan limits tokens).answered (answer limits) := by
  have hbudget := phrase.weight_le tokens
  rw [← read_eq_answer (Nat.le_succ_of_le hbudget), read_succ]
  refine Plan.answered_congr (phrase.plan_paid tokens) (read_keeps _) fun called rest hweight => ?_
  have hlt : called.weight rest < phrase.weight tokens := hweight
  exact read_eq_answer (by omega)

/-- No other reader solves these equations. -/
theorem eq_answer {reader : Reader}
    (hreader : ∀ phrase tokens, reader phrase tokens = (phrase.plan limits tokens).answered reader)
    (phrase : Phrase) (tokens : List Lexeme) :
    reader phrase tokens = answer limits phrase tokens := by
  induction hweight : phrase.weight tokens using Nat.strongRecOn generalizing phrase tokens with
  | ind weight ih =>
      rw [hreader, answer_eq]
      refine (Plan.answered_congr (phrase.plan_paid tokens) answer_keeps
        fun called rest hcalled => ?_).symm
      exact (ih (called.weight rest) (hweight ▸ hcalled) called rest rfl).symm

/-! ## Calls -/

/-- A call of the reader: what is to be read, and the tokens at the front of which it stands. -/
structure Call where
  phrase : Phrase
  tokens : List Lexeme

/-- Whether a call makes another one, without a third in between. -/
def Calls (limits : ParseLimits) (call called : Call) : Prop :=
  (call.phrase.plan limits call.tokens).Makes (answer limits) called.phrase called.tokens

theorem Calls.weight_lt {call called : Call} (hcalls : Calls limits call called) :
    called.phrase.weight called.tokens < call.phrase.weight call.tokens :=
  Plan.Makes.weight_lt hcalls (call.phrase.plan_paid call.tokens) answer_keeps

theorem weight_lt_of_transGen {call called : Call}
    (hcalls : Relation.TransGen (Calls limits) call called) :
    called.phrase.weight called.tokens < call.phrase.weight call.tokens := by
  induction hcalls with
  | single hcalls => exact hcalls.weight_lt
  | tail _ hcalls ih => exact Nat.lt_trans hcalls.weight_lt ih

/-- A rule that is called for again, while it is being read, has taken a token since. -/
theorem length_lt_of_transGen {call called : Call}
    (hcalls : Relation.TransGen (Calls limits) call called)
    (hrule : called.phrase.rule = call.phrase.rule) :
    called.tokens.length < call.tokens.length := by
  have hweight := weight_lt_of_transGen hcalls
  unfold Phrase.weight at hweight
  rw [hrule] at hweight
  omega

/-- The number of calls that the reading of a phrase with a budget makes, its own included. -/
def calls (limits : ParseLimits) : Nat → Phrase → List Lexeme → Nat
  | 0, _, _ => 1
  | fuel + 1, phrase, tokens =>
      1 + (phrase.plan limits tokens).count (read limits fuel) (calls limits fuel)

/-- The calls are no more than the price of a phrase, and what is left of it pays for the tokens
that are left. -/
theorem calls_le_price (limits : ParseLimits) (fuel : Nat) (phrase : Phrase)
    (tokens : List Lexeme) :
    calls limits fuel phrase tokens ≤ phrase.price tokens ∧
      Yields (fun found =>
          calls limits fuel phrase tokens + 32 * phrase.kept found ≤ phrase.price tokens)
        (read limits fuel phrase tokens) := by
  induction fuel generalizing phrase tokens with
  | zero =>
      rw [read_zero]
      exact ⟨Nat.le_add_left _ _, Yields.error _⟩
  | succ fuel ih =>
      -- The credit for the calls of the plan is the price without the call itself.
      obtain ⟨hcount, hyields⟩ := Plan.count_le (read_keeps fuel) ih (phrase.plan_paid tokens)
      rw [calls, read_succ]
      refine ⟨?_, fun found hfound => ?_⟩
      · exact Nat.add_comm 1 _ ▸ Nat.succ_le_succ hcount
      · obtain ⟨left, hleft, hpaid⟩ := hyields found hfound
        have hkept : 32 * phrase.kept found ≤ left := hleft
        change _ + left ≤ phrase.credit tokens at hpaid
        rw [Phrase.price]
        omega

end SchemaGuard.Parser
