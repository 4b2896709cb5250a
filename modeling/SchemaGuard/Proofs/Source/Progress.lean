import SchemaGuard.Proofs.Source.Returns
import SchemaGuard.Proofs.Source.Rounds

/-! # Progress of parsing

The scanner goes over a source in turns: either it settles the layout of a line that begins, or it
takes characters. A line that has begun has no more layout to settle, so two turns for each
character are enough. The reader goes over the tokens in calls, and what is known of these is put
together here.
-/

namespace SchemaGuard

open Outcome

namespace Lexer

/-! ## Turns of the scanner -/

/-- A turn at a character: the layout of the line that begins, or else one item. -/
def turn (state : State) (c : Char) (text : List Char) : Except ParseError (State × List Char) :=
  if state.atLineStart ∧ state.brackets = 0 then startLine state (c :: text)
  else takeOne { state with atLineStart := false } c text

/-- What a number of turns comes to. -/
def turns : Nat → State → List Char → Except ParseError (State × List Char)
  | 0, state, text => .ok (state, text)
  | _ + 1, state, [] => .ok (state, [])
  | count + 1, state, c :: text =>
      turn state c text >>= fun read => turns count read.1 read.2

/-- An end of the text is left, and where nothing has been taken a line has begun. -/
def Moves (state next : State) (text rest : List Char) : Prop :=
  rest <:+ text ∧ (rest = text → state.atLineStart = true ∧ next.atLineStart = false)

theorem turn_moves {state next : State} {c : Char} {text rest : List Char}
    (hturn : turn state c text = .ok (next, rest)) : Moves state next (c :: text) rest := by
  unfold turn at hturn
  split at hturn
  next hstart =>
    have hsettle : settleLine state (c :: text) = .ok (next, rest) := by
      rw [settleLine, if_pos hstart, hturn]
    exact ⟨startLine_suffix hturn, fun _ => ⟨hstart.1, settleLine_begun hsettle⟩⟩
  next =>
    have hsuffix := takeOne_suffix hturn
    refine ⟨hsuffix.trans (List.suffix_cons c text), ?_⟩
    rintro rfl
    exact absurd hsuffix.length_le (Nat.not_succ_le_self _)

/-- Where a line has begun the scanner goes on with one item. -/
theorem scan_begun {state : State} (hbegun : state.atLineStart = false) (text : List Char) :
    scan state text = takeNext (state, text) >>= fun read => scan read.1 read.2 := by
  cases text with
  | nil =>
      rw [scan, takeNext, ok_bind, scan]
  | cons c rest =>
      have hstate : { state with atLineStart := false } = state := by rw [← hbegun]
      rw [scan_eq_bind, step_eq, settleLine, if_neg (by simp [hbegun]), hstate, ok_bind]

theorem scan_turn (state : State) (c : Char) (text : List Char) :
    scan state (c :: text) = turn state c text >>= fun read => scan read.1 read.2 := by
  rw [scan_eq_bind, step_eq, bind_assoc, turn, settleLine]
  split
  next hstart =>
    refine bind_congr rfl fun read hread => ?_
    have hsettle : settleLine state (c :: text) = .ok read := by
      rw [settleLine, if_pos hstart, hread]
    exact (scan_begun (settleLine_begun hsettle) read.2).symm
  next => rfl

/-- Two turns for each character are enough to take the whole text, less one where a line has
begun. -/
theorem turns_eq_scan {count : Nat} {state : State} {text : List Char}
    (hcount : 2 * text.length ≤ count + if state.atLineStart then 0 else 1) :
    turns count state text = (scan state text).map fun final => (final, []) := by
  induction count generalizing state text with
  | zero =>
      have hlength : text.length = 0 := by split at hcount <;> omega
      rw [List.eq_nil_of_length_eq_zero hlength, scan]
      rfl
  | succ count ih =>
      cases text with
      | nil =>
          rw [scan]
          rfl
      | cons c text =>
          rw [turns, scan_turn]
          cases hturn : turn state c text with
          | error error => rfl
          | ok read =>
              obtain ⟨next, rest⟩ := read
              obtain ⟨hsuffix, hstill⟩ := turn_moves hturn
              rw [List.length_cons] at hcount
              refine ih ?_
              dsimp only
              obtain rfl | hrest := List.suffix_cons_iff.mp hsuffix
              · obtain ⟨hstart, hbegun⟩ := hstill rfl
                rw [hstart, if_pos rfl] at hcount
                rw [hbegun, if_neg Bool.false_ne_true, List.length_cons]
                omega
              · have hlength := hrest.length_le
                split at hcount <;> omega

end Lexer

namespace Parser

variable {tokens : List Lexeme}

/-! ## Tokens of a source -/

/-- Tokens of which the last one is the end of the source. -/
def EndsInEof (tokens : List Lexeme) : Prop :=
  tokens.getLast?.map Lexeme.token = some .eof

theorem EndsInEof.length_pos (hend : EndsInEof tokens) : 0 < tokens.length := by
  cases tokens with
  | nil => cases hend
  | cons lexeme rest => exact Nat.succ_pos _

theorem endsInEof_of_lexemes {source : String} (hlexemes : Lexer.lexemes source = .ok tokens) :
    EndsInEof tokens := by
  obtain ⟨final, _, rfl⟩ := map_eq_ok.mp hlexemes
  simp [EndsInEof, Lexer.State.finish, Lexer.State.push]

/-! ## Progress of the reader -/

theorem program_ne_exhausted (limits : ParseLimits) (tokens : List Lexeme) :
    program limits (budget tokens) (skipNewlines tokens) ≠ .error .exhausted := by
  have hskip := skipNewlines_length tokens
  have hconcludes : Concludes (fun _ => True)
      (program limits (budget tokens) (skipNewlines tokens)) :=
    program_concludes _ _ (by unfold budget; omega)
  exact fun hexhausted => hconcludes.1 _ hexhausted rfl

theorem wholeExpression_ne_exhausted (limits : ParseLimits) (tokens : List Lexeme) :
    wholeExpression limits (budget tokens) tokens ≠ .error .exhausted := by
  have hconcludes : Concludes (fun _ => True) (wholeExpression limits (budget tokens) tokens) := by
    refine (expression_leaves _ 0 tokens (by unfold budget; omega)).bind fun found _ => ?_
    dsimp only
    split
    · exact Concludes.ok trivial
    · exact unexpected_concludes _
  exact fun hexhausted => hconcludes.1 _ hexhausted rfl

theorem calls_le (limits : ParseLimits) (fuel : Nat) (phrase : Phrase) (tokens : List Lexeme) :
    calls limits fuel phrase tokens ≤ 32 * (tokens.length + 1) := by
  have hprice := (calls_le_price limits fuel phrase tokens).1
  have hrank := phrase.rule.rank_le
  unfold Phrase.price Phrase.credit Phrase.weight at hprice
  omega

/-- How the reading of some tokens goes on and comes to an end. -/
structure Advances (limits : ParseLimits) (tokens : List Lexeme) : Prop where
  /-- A round of a loop takes a token. -/
  rounds : ∀ phrase rest, Round limits phrase tokens rest → rest.length < tokens.length
  /-- A loop goes on by its rounds and by nothing else, even where it fails later. -/
  loops : ∀ phrase : Phrase, phrase.rule.Repeats → ∀ rest,
    GoesOn limits phrase tokens rest ↔ Round limits phrase tokens rest
  /-- A phrase that is read takes as many tokens as its rule does at least. For all but the loops
  that may find nothing that is a token, so the last round of a line or of items takes one too. -/
  returns : ∀ phrase found, answer limits phrase tokens = .ok found →
    found.2.length + phrase.rule.least ≤ tokens.length
  /-- A rule that comes up again while it is being read, through whatever calls, has taken a token
  in between. -/
  descends : ∀ phrase called, Relation.TransGen (Calls limits) ⟨phrase, tokens⟩ called →
    called.phrase.rule = phrase.rule → called.tokens.length < tokens.length
  /-- Every phrase has an outcome, with every budget that is not less than its weight. -/
  concludes : ∀ phrase, answer limits phrase tokens ≠ .error .exhausted ∧
    ∀ fuel, phrase.weight tokens ≤ fuel →
      read limits fuel phrase tokens = answer limits phrase tokens
  /-- The outcomes are what the plans make of one another. -/
  unfolds : ∀ phrase,
    answer limits phrase tokens = (phrase.plan limits tokens).answered (answer limits)
  /-- Nothing else is what the plans make of one another. -/
  determines : ∀ reader : Reader,
    (∀ phrase tokens, reader phrase tokens = (phrase.plan limits tokens).answered reader) →
      ∀ phrase, reader phrase tokens = answer limits phrase tokens
  /-- A program does not use up the budget that its tokens are granted. -/
  programs : program limits (budget tokens) (skipNewlines tokens) ≠ .error .exhausted
  /-- An expression does not use up the budget that its tokens are granted. -/
  expressions : wholeExpression limits (budget tokens) tokens ≠ .error .exhausted
  /-- The calls that the reading of a phrase leads to are at most sixty-four for each token. -/
  effort : ∀ fuel phrase, calls limits fuel phrase tokens ≤ 64 * tokens.length

/-- Parsing ends, and makes progress until it does. -/
theorem parsing_advances (limits : ParseLimits) :
    (∀ state next c text rest, Lexer.turn state c text = .ok (next, rest) →
      Lexer.Moves state next (c :: text) rest) ∧
    (∀ source : String, ∀ count, 2 * source.toList.length ≤ count →
      Lexer.turns count {} source.toList =
        (Lexer.scan {} source.toList).map fun final => (final, [])) ∧
    (∀ source tokens, Lexer.lexemes source = .ok tokens → EndsInEof tokens) ∧
    ∀ tokens, EndsInEof tokens → Advances limits tokens := by
  refine ⟨fun _ _ _ _ _ => Lexer.turn_moves,
    fun _ _ hcount => Lexer.turns_eq_scan (Nat.le_add_right_of_le hcount),
    fun _ _ => endsInEof_of_lexemes, fun tokens hend => ?_⟩
  exact {
    rounds := fun _ _ hround => hround.length_lt
    loops := fun _ hrepeats => goesOn_iff hrepeats tokens
    returns := fun phrase => answer_keeps phrase tokens
    descends := fun _ _ => length_lt_of_transGen
    concludes := fun phrase => ⟨answer_ne_exhausted phrase tokens, fun _ => read_eq_answer⟩
    unfolds := fun phrase => answer_eq phrase tokens
    determines := fun _ hreader phrase => eq_answer hreader phrase tokens
    programs := program_ne_exhausted limits tokens
    expressions := wholeExpression_ne_exhausted limits tokens
    effort := fun fuel phrase => by
      have hcalls := calls_le limits fuel phrase tokens
      have hpos := hend.length_pos
      omega }

/-- What follows a name in a block: a member, and a call that is still open when the block ends. -/
def openCall : List Lexeme :=
  [⟨.dot, 1⟩, ⟨.identifier "check", 1⟩, ⟨.leftParen, 1⟩, ⟨.dedent, 2⟩, ⟨.eof, 2⟩]

/-- The member is taken in a round of its own, before the call is looked at. -/
theorem openCall_advances :
    EndsInEof openCall ∧
      Round {} (.suffixes 1 (.var "f")) openCall (openCall.drop 2) ∧
      (openCall.drop 2).length < openCall.length ∧
      calls {} (budget openCall) (.suffixes 1 (.var "f")) openCall ≤ 64 * openCall.length := by
  have hend : EndsInEof openCall := rfl
  have hadvances : Advances {} openCall := (parsing_advances {}).2.2.2 openCall hend
  have hround : Round {} (.suffixes 1 (.var "f")) openCall (openCall.drop 2) := .member rfl rfl
  exact ⟨hend, hround, hadvances.rounds _ _ hround, hadvances.effort _ _⟩

end Parser

end SchemaGuard
