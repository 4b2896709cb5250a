import SchemaGuard.Proofs.Source.Calls

/-! # The rounds of the loops

Six of the rules say how often something is repeated: the statements of a program and of a block,
the statements on a line, comparisons, suffixes, and items in brackets. A round takes what is
repeated off the tokens. Another round follows exactly where the function of the rule calls itself.
-/

namespace SchemaGuard.Parser

open Outcome

variable {limits : ParseLimits}

/-- The rules that repeat something. -/
def Rule.Repeats : Rule → Prop
  | program | block | simpleLine | comparisons | suffixes | items => True
  | _ => False

/-- A round that has been read, with another one to follow: the tokens before it and after it. -/
inductive Round (limits : ParseLimits) : Phrase → List Lexeme → List Lexeme → Prop
  /-- A statement of a program, with the empty lines after it. -/
  | statement {tokens rest : List Lexeme} {body : List Statement}
      (heof : current tokens ≠ .eof)
      (hread : answer limits (.statement 0) tokens = .ok (body, rest)) :
      Round limits .program tokens (skipNewlines rest)
  /-- A statement of a block, with the empty lines after it. -/
  | inBlock {depth : Nat} {tokens rest : List Lexeme} {body : List Statement}
      (hdedent : current tokens ≠ .dedent) (heof : current tokens ≠ .eof)
      (hread : answer limits (.statement depth) tokens = .ok (body, rest)) :
      Round limits (.block depth) tokens (skipNewlines rest)
  /-- A statement on a line, through a semicolon that does not end the line. -/
  | onLine {depth : Nat} {tokens rest : List Lexeme} {body : List Statement}
      (hread : simple limits (budget tokens) depth tokens = .ok (body, rest))
      (hsemicolon : current rest = .semicolon) (hnewline : current rest.tail ≠ .newline)
      (heof : current rest.tail ≠ .eof) :
      Round limits (.simpleLine depth) tokens rest.tail
  /-- An operator of comparison, and its right side. -/
  | comparison {depth : Nat} {tokens following rest : List Lexeme} {op : CompareOp} {right : Expr}
      (hcompare : comparison? tokens = some (op, following))
      (hread : answer limits (.chain .sum depth) following = .ok (right, rest)) :
      Round limits (.comparisons depth) tokens rest
  /-- A dot, and the name of a member. -/
  | member {depth : Nat} {base : Expr} {tokens rest : List Lexeme} {name : String}
      (hdot : current tokens = .dot) (hname : expectName tokens.tail = .ok (name, rest)) :
      Round limits (.suffixes depth base) tokens rest
  /-- A position in brackets. -/
  | position {depth : Nat} {base position : Expr} {tokens following rest : List Lexeme}
      (hbracket : current tokens = .leftBracket)
      (hread : answer limits (.expression depth) tokens.tail = .ok (position, following))
      (hclose : expect .rightBracket following = .ok rest) :
      Round limits (.suffixes depth base) tokens rest
  /-- The arguments of a call. -/
  | arguments {depth : Nat} {base : Expr} {args : List Expr} {tokens rest : List Lexeme}
      (hparen : current tokens = .leftParen)
      (hread : answer limits (.items .round depth) tokens.tail = .ok (args, rest)) :
      Round limits (.suffixes depth base) tokens rest
  /-- An item, and the comma after it. -/
  | item {bracket : Bracket} {depth : Nat} {item : Expr} {tokens rest : List Lexeme}
      (hopen : current tokens ≠ bracket.close)
      (hread : answer limits (.expression depth) tokens = .ok (item, rest))
      (hcomma : current rest = .comma) :
      Round limits (.items bracket depth) tokens rest.tail

/-! ## Simple statements -/

namespace Plan

variable {reader : Reader} {called : Phrase} {rest : List Lexeme} {depth : Nat}
  {tokens : List Lexeme}

theorem raised_makes (hmakes : (Plan.raised depth tokens).Makes reader called rest) :
    called = .expression depth := by
  unfold Plan.raised at hmakes
  split at hmakes
  case h_5 =>
    obtain ⟨⟨kind, following⟩, _, hmakes⟩ := makes_take_bind_iff.mp hmakes
    dsimp only at hmakes
    split at hmakes
    next =>
      split at hmakes
      next => cases hmakes
      next =>
        obtain ⟨rfl, _⟩ | ⟨message, left, _, hmakes⟩ := makes_ask_bind_iff.mp hmakes
        · rfl
        · obtain ⟨last, _, ⟨⟩⟩ := makes_take_bind_iff.mp hmakes
    next => cases hmakes
  all_goals cases hmakes

theorem asserted_makes (hmakes : (Plan.asserted depth tokens).Makes reader called rest) :
    called = .expression depth := by
  unfold Plan.asserted at hmakes
  obtain ⟨rfl, _⟩ | ⟨condition, left, _, hmakes⟩ := makes_ask_bind_iff.mp hmakes
  · rfl
  dsimp only at hmakes
  split at hmakes
  next =>
    obtain ⟨rfl, _⟩ | ⟨message, last, _, ⟨⟩⟩ := makes_ask_bind_iff.mp hmakes
    rfl
  next => cases hmakes

theorem assignment_makes (hmakes : (Plan.assignment depth tokens).Makes reader called rest) :
    called = .expression depth := by
  unfold Plan.assignment at hmakes
  obtain ⟨rfl, _⟩ | ⟨e, left, _, hmakes⟩ := makes_ask_bind_iff.mp hmakes
  · rfl
  dsimp only at hmakes
  split at hmakes
  next =>
    split at hmakes
    · obtain ⟨rfl, _⟩ | ⟨value, last, _, ⟨⟩⟩ := makes_ask_bind_iff.mp hmakes
      rfl
    · cases hmakes
  next => cases hmakes

/-- A simple statement calls for expressions and imports, and not for a line. -/
theorem simple_makes (hmakes : (Plan.simple depth tokens).Makes reader called rest) :
    called = .expression depth ∨ called = .imports := by
  -- What is done with a single statement makes no call.
  have hsingle : ∀ {plan : Plan (Statement × List Lexeme)},
      Makes reader (plan >>= fun found => Plan.done ([found.1], found.2)) called rest →
        plan.Makes reader called rest := by
    intro plan hplan
    obtain hplan | ⟨found, _, ⟨⟩⟩ := makes_bind_iff.mp hplan
    exact hplan
  unfold Plan.simple at hmakes
  dsimp only at hmakes
  split at hmakes
  next => cases hmakes
  next => exact .inl (raised_makes (hsingle hmakes))
  next => exact .inl (asserted_makes (hsingle hmakes))
  next => exact .inr (makes_ask_iff.mp hmakes).1
  next => exact .inl (assignment_makes (hsingle hmakes))

theorem simple_answer (depth : Nat) (tokens : List Lexeme) :
    (Plan.simple depth tokens).answered (answer limits) =
      Parser.simple limits (budget tokens) depth tokens := by
  rw [← simple_answered]
  refine answered_congr (simple_affords (Nat.lt_succ_self _) (Nat.le_refl _)) answer_keeps
    fun called rest hcalled => (read_eq_answer ?_).symm
  unfold budget
  omega

end Plan

/-! ## Progress of a round -/

/-- Every round takes a token. -/
theorem Round.length_lt {phrase : Phrase} {tokens rest : List Lexeme}
    (hround : Round limits phrase tokens rest) : rest.length < tokens.length := by
  cases hround with
  | @statement tokens rest body heof hread =>
      have hrest := answer_keeps _ _ _ hread
      have hskip := skipNewlines_length rest
      exact Nat.lt_of_le_of_lt hskip hrest
  | @inBlock depth tokens rest body hdedent heof hread =>
      have hrest := answer_keeps _ _ _ hread
      have hskip := skipNewlines_length rest
      exact Nat.lt_of_le_of_lt hskip hrest
  | @onLine depth tokens rest body hread hsemicolon hnewline heof =>
      have hlength := length_tail hsemicolon (by simp)
      have hrest := (simple_leaves _ depth tokens (by unfold budget; omega)).2 _ hread
      dsimp only at hrest
      omega
  | @comparison depth tokens following rest op right hcompare hread =>
      have hfollowing := comparison?_length hcompare
      have hrest := answer_keeps _ _ _ hread
      exact Nat.lt_trans hrest hfollowing
  | @member depth base tokens rest name hdot hname =>
      have hlength := length_tail hdot (by simp)
      have hrest := (expectName_leaves tokens.tail).2 _ hname
      dsimp only at hrest
      omega
  | @position depth base position tokens following rest hbracket hread hclose =>
      have hlength := length_tail hbracket (by simp)
      have hfollowing : following.length + 1 ≤ tokens.tail.length := answer_keeps _ _ _ hread
      have hrest := (expect_concludes .rightBracket (by simp) following).2 rest hclose
      omega
  | @arguments depth base args tokens rest hparen hread =>
      have hlength := length_tail hparen (by simp)
      have hrest : rest.length + 1 ≤ tokens.tail.length := answer_keeps _ _ _ hread
      omega
  | @item bracket depth item tokens rest hopen hread hcomma =>
      have hlength := length_tail hcomma (by simp)
      have hrest : rest.length + 1 ≤ tokens.length := answer_keeps _ _ _ hread
      omega

/-! ## Where another round follows -/

/-- Whether the function of a phrase calls itself, for another round. -/
def GoesOn (limits : ParseLimits) (phrase : Phrase) (tokens rest : List Lexeme) : Prop :=
  ∃ again : Phrase, again.rule = phrase.rule ∧ Calls limits ⟨phrase, tokens⟩ ⟨again, rest⟩

theorem Round.goesOn {phrase : Phrase} {tokens rest : List Lexeme}
    (hround : Round limits phrase tokens rest) : GoesOn limits phrase tokens rest := by
  cases hround with
  | @statement tokens rest body heof hread =>
      refine ⟨.program, rfl, ?_⟩
      simp [Calls, Phrase.plan, Plan.program, hread]
  | @inBlock depth tokens rest body hdedent heof hread =>
      refine ⟨.block depth, rfl, ?_⟩
      simp [Calls, Phrase.plan, Plan.block, hread]
  | @onLine depth tokens rest body hread hsemicolon hnewline heof =>
      refine ⟨.simpleLine depth, rfl, ?_⟩
      simp [Calls, Phrase.plan, Plan.simpleLine, Plan.simple_answer, hread, hsemicolon]
  | @comparison depth tokens following rest op right hcompare hread =>
      refine ⟨.comparisons depth, rfl, ?_⟩
      simp [Calls, Phrase.plan, Plan.comparisons, hcompare, hread]
  | @member depth base tokens rest name hdot hname =>
      refine ⟨.suffixes depth (.attr base name), rfl, ?_⟩
      simp [Calls, Phrase.plan, Plan.suffixes, hdot, hname]
  | @position depth base position tokens following rest hbracket hread hclose =>
      refine ⟨.suffixes depth (.index base position), rfl, ?_⟩
      simp [Calls, Phrase.plan, Plan.suffixes, hbracket, hread, hclose]
  | @arguments depth base args tokens rest hparen hread =>
      refine ⟨.suffixes depth (.call base args), rfl, ?_⟩
      simp [Calls, Phrase.plan, Plan.suffixes, hparen, hread]
  | @item bracket depth item tokens rest hopen hread hcomma =>
      refine ⟨.items bracket depth, rfl, ?_⟩
      simp [Calls, Phrase.plan, Plan.items, hopen, hread, hcomma]

theorem GoesOn.round {phrase : Phrase} {tokens rest : List Lexeme}
    (hgoes : GoesOn limits phrase tokens rest) (hrepeats : phrase.rule.Repeats) :
    Round limits phrase tokens rest := by
  obtain ⟨again, hrule, hcalls⟩ := hgoes
  cases phrase with
  | program =>
      unfold Calls Phrase.plan Plan.program at hcalls
      dsimp only at hcalls
      split at hcalls
      next => cases hcalls
      next heof =>
        obtain ⟨rfl, _⟩ | ⟨body, left, hread, hcalls⟩ := Plan.makes_ask_bind_iff.mp hcalls
        · cases hrule
        obtain ⟨rfl, rfl⟩ | ⟨_, _, _, ⟨⟩⟩ := Plan.makes_ask_bind_iff.mp hcalls
        exact .statement heof hread
  | block depth =>
      unfold Calls Phrase.plan Plan.block at hcalls
      dsimp only at hcalls
      split at hcalls
      next => cases hcalls
      next => cases hcalls
      next hdedent heof =>
        obtain ⟨rfl, _⟩ | ⟨body, left, hread, hcalls⟩ := Plan.makes_ask_bind_iff.mp hcalls
        · cases hrule
        obtain ⟨rfl, rfl⟩ | ⟨_, _, _, ⟨⟩⟩ := Plan.makes_ask_bind_iff.mp hcalls
        exact .inBlock hdedent heof hread
  | simpleLine depth =>
      unfold Calls Phrase.plan Plan.simpleLine at hcalls
      dsimp only at hcalls
      obtain hsimple | ⟨⟨body, left⟩, hread, hcalls⟩ := Plan.makes_bind_iff.mp hcalls
      · obtain rfl | rfl := Plan.simple_makes hsimple <;> cases hrule
      rw [Plan.simple_answer] at hread
      dsimp only at hcalls
      split at hcalls
      case h_4 hsemicolon =>
        split at hcalls
        case h_3 hnewline heof =>
          obtain ⟨rfl, rfl⟩ | ⟨_, _, _, ⟨⟩⟩ := Plan.makes_ask_bind_iff.mp hcalls
          exact .onLine hread hsemicolon hnewline heof
        all_goals cases hcalls
      all_goals cases hcalls
  | comparisons depth =>
      unfold Calls Phrase.plan Plan.comparisons at hcalls
      dsimp only at hcalls
      split at hcalls
      next op following hcompare =>
        obtain ⟨rfl, _⟩ | ⟨right, left, hread, hcalls⟩ := Plan.makes_ask_bind_iff.mp hcalls
        · cases hrule
        obtain ⟨rfl, rfl⟩ | ⟨_, _, _, ⟨⟩⟩ := Plan.makes_ask_bind_iff.mp hcalls
        exact .comparison hcompare hread
      next => cases hcalls
  | suffixes depth base =>
      unfold Calls Phrase.plan Plan.suffixes at hcalls
      dsimp only at hcalls
      split at hcalls
      next hdot =>
        obtain ⟨⟨name, left⟩, hname, hcalls⟩ := Plan.makes_take_bind_iff.mp hcalls
        obtain ⟨rfl, rfl⟩ := Plan.makes_ask_iff.mp hcalls
        exact .member hdot hname
      next hbracket =>
        obtain ⟨rfl, _⟩ | ⟨position, following, hread, hcalls⟩ := Plan.makes_ask_bind_iff.mp hcalls
        · cases hrule
        obtain ⟨left, hclose, hcalls⟩ := Plan.makes_take_bind_iff.mp hcalls
        obtain ⟨rfl, rfl⟩ := Plan.makes_ask_iff.mp hcalls
        exact .position hbracket hread hclose
      next hparen =>
        obtain ⟨rfl, _⟩ | ⟨args, left, hread, hcalls⟩ := Plan.makes_ask_bind_iff.mp hcalls
        · cases hrule
        obtain ⟨rfl, rfl⟩ := Plan.makes_ask_iff.mp hcalls
        exact .arguments hparen hread
      next => cases hcalls
  | items bracket depth =>
      unfold Calls Phrase.plan Plan.items at hcalls
      dsimp only at hcalls
      split at hcalls
      next => cases hcalls
      next hopen =>
        obtain ⟨rfl, _⟩ | ⟨item, left, hread, hcalls⟩ := Plan.makes_ask_bind_iff.mp hcalls
        · cases hrule
        dsimp only at hcalls
        split at hcalls
        next hcomma =>
          obtain ⟨rfl, rfl⟩ | ⟨_, _, _, ⟨⟩⟩ := Plan.makes_ask_bind_iff.mp hcalls
          exact .item hopen hread hcomma
        next => split at hcalls <;> cases hcalls
  | _ => exact hrepeats.elim

/-- A rule that repeats something goes on by its rounds, and by nothing else. -/
theorem goesOn_iff {phrase : Phrase} (hrepeats : phrase.rule.Repeats) (tokens rest : List Lexeme) :
    GoesOn limits phrase tokens rest ↔ Round limits phrase tokens rest :=
  ⟨fun hgoes => hgoes.round hrepeats, Round.goesOn⟩

end SchemaGuard.Parser
