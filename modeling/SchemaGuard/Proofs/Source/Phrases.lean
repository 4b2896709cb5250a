import SchemaGuard.Proofs.Source.Budget

/-! # Phrases and the calls that read them

Each function of the reader reads one kind of phrase. What it does can be laid out as a plan: it
takes tokens, refuses, or calls for another phrase and goes on with what has been read. The plans
know no budget. Reading with a budget carries out the plan of a phrase, where every phrase that the
plan calls for is read with a budget that is smaller by one.
-/

namespace SchemaGuard.Parser

open Outcome

/-! ## Phrases -/

/-- The rules of the grammar, one for each function of the reader that calls another. -/
inductive Rule where
  | expression
  | chain (level : Level)
  | chainFrom (level : Level)
  | operand (level : Level)
  | negation
  | comparisons
  | signed
  | suffixes
  | items
  | primary
  | parenthesised
  | dottedName
  | imports
  | simpleLine
  | statement
  | alternatives
  | suite
  | block
  | program
deriving DecidableEq

/-- The brackets that enclose items. -/
inductive Bracket where
  | round
  | square
deriving DecidableEq

/-- The token that closes a bracket. -/
def Bracket.close : Bracket → Token
  | .round => .rightParen
  | .square => .rightBracket

/-- What is to be read: a rule of the grammar with what its function is given besides tokens. -/
inductive Phrase where
  | expression (depth : Nat)
  | chain (level : Level) (depth : Nat)
  | chainFrom (level : Level) (depth : Nat) (left : Expr)
  | operand (level : Level) (depth : Nat)
  | negation (depth : Nat)
  | comparisons (depth : Nat)
  | signed (depth : Nat)
  | suffixes (depth : Nat) (base : Expr)
  | items (bracket : Bracket) (depth : Nat)
  | primary (depth : Nat)
  | parenthesised (depth : Nat)
  | dottedName
  | imports
  | simpleLine (depth : Nat)
  | statement (depth : Nat)
  | alternatives (depth : Nat)
  | suite (depth : Nat)
  | block (depth : Nat)
  | program

namespace Phrase

/-- The rule of a phrase. -/
def rule : Phrase → Rule
  | expression _ => .expression
  | chain level _ => .chain level
  | chainFrom level _ _ => .chainFrom level
  | operand level _ => .operand level
  | negation _ => .negation
  | comparisons _ => .comparisons
  | signed _ => .signed
  | suffixes _ _ => .suffixes
  | items _ _ => .items
  | primary _ => .primary
  | parenthesised _ => .parenthesised
  | dottedName => .dottedName
  | imports => .imports
  | simpleLine _ => .simpleLine
  | statement _ => .statement
  | alternatives _ => .alternatives
  | suite _ => .suite
  | block _ => .block
  | program => .program

/-- What a phrase is read to. -/
@[reducible] def Value : Phrase → Type
  | comparisons _ => List (CompareOp × Expr)
  | items _ _ => List Expr
  | dottedName => List String
  | alternatives _ => List (Expr × List Statement) × List Statement
  | imports | simpleLine _ | statement _ | suite _ | block _ | program => List Statement
  | _ => Expr

end Phrase

/-- The reading of phrases from tokens, up to the tokens that are left. -/
abbrev Reader := (phrase : Phrase) → List Lexeme → Except Halt (phrase.Value × List Lexeme)

/-- The functions of the reader, by the phrases that they read. A program leaves no tokens. -/
def read (limits : ParseLimits) (fuel : Nat) : Reader
  | .expression depth, tokens => expression limits fuel depth tokens
  | .chain level depth, tokens => chain limits fuel level depth tokens
  | .chainFrom level depth left, tokens => chainFrom limits fuel level depth left tokens
  | .operand level depth, tokens => operand limits fuel level depth tokens
  | .negation depth, tokens => negation limits fuel depth tokens
  | .comparisons depth, tokens => comparisons limits fuel depth tokens
  | .signed depth, tokens => signed limits fuel depth tokens
  | .suffixes depth base, tokens => suffixes limits fuel depth base tokens
  | .items bracket depth, tokens => items limits fuel bracket.close depth tokens
  | .primary depth, tokens => primary limits fuel depth tokens
  | .parenthesised depth, tokens => parenthesised limits fuel depth tokens
  | .dottedName, tokens => dottedName fuel tokens
  | .imports, tokens => imports fuel tokens
  | .simpleLine depth, tokens => simpleLine limits fuel depth tokens
  | .statement depth, tokens => statement limits fuel depth tokens
  | .alternatives depth, tokens => alternatives limits fuel depth tokens
  | .suite depth, tokens => suite limits fuel depth tokens
  | .block depth, tokens => block limits fuel depth tokens
  | .program, tokens => (program limits fuel tokens).map fun body => (body, [])

/-! ## Plans -/

/-- What a function of the reader does, up to the calls that it makes. -/
inductive Plan (α : Type) where
  | done (a : α)
  | stop (halt : Halt)
  | call (phrase : Phrase) (tokens : List Lexeme) (next : phrase.Value × List Lexeme → Plan α)

namespace Plan

variable {α β : Type}

/-- A plan, and what is done with its result. -/
def bind : Plan α → (α → Plan β) → Plan β
  | done a, next => next a
  | stop halt, _ => stop halt
  | call phrase tokens more, next => call phrase tokens fun found => (more found).bind next

instance : Monad Plan where
  pure := done
  bind := bind

/-- Calls for a phrase. -/
def ask (phrase : Phrase) (tokens : List Lexeme) : Plan (phrase.Value × List Lexeme) :=
  call phrase tokens done

/-- What is done without a call. -/
def take : Except Halt α → Plan α
  | .ok a => done a
  | .error halt => stop halt

/-- The outcome of a plan whose calls a reader answers. -/
def answered (reader : Reader) : Plan α → Except Halt α
  | done a => .ok a
  | stop halt => .error halt
  | call phrase tokens next => reader phrase tokens >>= fun found => (next found).answered reader

@[simp] theorem done_bind (a : α) (next : α → Plan β) : (done a >>= next) = next a := rfl

@[simp] theorem stop_bind (halt : Halt) (next : α → Plan β) :
    (stop halt >>= next) = stop halt := rfl

@[simp] theorem call_bind (phrase : Phrase) (tokens : List Lexeme)
    (more : phrase.Value × List Lexeme → Plan α) (next : α → Plan β) :
    (call phrase tokens more >>= next) = call phrase tokens fun found => more found >>= next := rfl

@[simp] theorem ask_bind (phrase : Phrase) (tokens : List Lexeme)
    (next : phrase.Value × List Lexeme → Plan β) :
    (ask phrase tokens >>= next) = call phrase tokens next := rfl

variable (reader : Reader)

@[simp] theorem answered_pure (a : α) : (pure a : Plan α).answered reader = .ok a := rfl

@[simp] theorem answered_stop (halt : Halt) :
    (stop halt : Plan α).answered reader = .error halt := rfl

@[simp] theorem answered_take (outcome : Except Halt α) :
    (take outcome).answered reader = outcome := by
  cases outcome <;> rfl

-- The type of what is found is written out where a phrase is known, so it is no key here.
@[simp] theorem answered_ask (phrase : Phrase) (tokens : List Lexeme) :
    @answered (no_index (phrase.Value × List Lexeme)) reader (ask phrase tokens) =
      reader phrase tokens := by
  unfold ask answered
  cases reader phrase tokens <;> rfl

/-- The outcome of a plan in two parts is that of the first, and then of the second. -/
@[simp] theorem answered_bind (plan : Plan α) (next : α → Plan β) :
    (plan >>= next).answered reader =
      plan.answered reader >>= fun a => (next a).answered reader := by
  induction plan with
  | done a => rfl
  | stop halt => rfl
  | call phrase tokens more ih =>
      rw [call_bind, answered, answered, bind_assoc]
      exact bind_congr rfl fun found _ => ih found

end Plan

/-! ## The plans of the phrases -/

namespace Plan

/-- An expression, which may choose between two by a condition. -/
def expression (limits : ParseLimits) (depth : Nat) (tokens : List Lexeme) :
    Plan (Expr × List Lexeme) := do
  let depth ← take (enter limits depth)
  let (value, tokens) ← ask (.chain .disjunction depth) tokens
  match current tokens with
  | .ifWord =>
      let (condition, tokens) ← ask (.chain .disjunction depth) tokens.tail
      let tokens ← take (expect .elseWord tokens)
      let (other, tokens) ← ask (.expression depth) tokens
      pure (.cond condition value other, tokens)
  | _ => pure (value, tokens)

/-- Operands joined by the operators of one level. -/
def chain (level : Level) (depth : Nat) (tokens : List Lexeme) : Plan (Expr × List Lexeme) := do
  let (left, tokens) ← ask (.operand level depth) tokens
  ask (.chainFrom level depth left) tokens

/-- The further operands of a chain whose first part has been read. -/
def chainFrom (level : Level) (depth : Nat) (left : Expr) (tokens : List Lexeme) :
    Plan (Expr × List Lexeme) :=
  match level.operator? (current tokens) with
  | some build => do
      let (right, tokens) ← ask (.operand level depth) tokens.tail
      ask (.chainFrom level depth (build left right)) tokens
  | none => pure (left, tokens)

/-- An operand of a level: an expression of the next tighter one. -/
def operand (level : Level) (depth : Nat) (tokens : List Lexeme) : Plan (Expr × List Lexeme) :=
  match level with
  | .disjunction => ask (.chain .conjunction depth) tokens
  | .conjunction => ask (.negation depth) tokens
  | .sum => ask (.chain .term depth) tokens
  | .term => ask (.signed depth) tokens

/-- A comparison, negated any number of times. -/
def negation (limits : ParseLimits) (depth : Nat) (tokens : List Lexeme) :
    Plan (Expr × List Lexeme) :=
  match current tokens with
  | .not => do
      let depth ← take (enter limits depth)
      let (inner, tokens) ← ask (.negation depth) tokens.tail
      pure (.not inner, tokens)
  | _ => do
      let (first, tokens) ← ask (.chain .sum depth) tokens
      let (links, tokens) ← ask (.comparisons depth) tokens
      match links with
      | [] => pure (first, tokens)
      | links => pure (.compare first links, tokens)

/-- The comparisons that follow a first operand. -/
def comparisons (depth : Nat) (tokens : List Lexeme) :
    Plan (List (CompareOp × Expr) × List Lexeme) :=
  match comparison? tokens with
  | some (op, tokens) => do
      let (right, tokens) ← ask (.chain .sum depth) tokens
      let (links, tokens) ← ask (.comparisons depth) tokens
      pure ((op, right) :: links, tokens)
  | none => pure ([], tokens)

/-- An operand with any number of signs, of which a plus leaves no trace. -/
def signed (limits : ParseLimits) (depth : Nat) (tokens : List Lexeme) :
    Plan (Expr × List Lexeme) :=
  match current tokens with
  | .minus => do
      let depth ← take (enter limits depth)
      let (inner, tokens) ← ask (.signed depth) tokens.tail
      pure (.negate inner, tokens)
  | .plus => do
      let depth ← take (enter limits depth)
      ask (.signed depth) tokens.tail
  | _ => do
      let (base, tokens) ← ask (.primary depth) tokens
      ask (.suffixes depth base) tokens

/-- Attributes, positions and calls that follow an expression. -/
def suffixes (depth : Nat) (base : Expr) (tokens : List Lexeme) : Plan (Expr × List Lexeme) :=
  match current tokens with
  | .dot => do
      let (name, tokens) ← take (expectName tokens.tail)
      ask (.suffixes depth (.attr base name)) tokens
  | .leftBracket => do
      let (position, tokens) ← ask (.expression depth) tokens.tail
      let tokens ← take (expect .rightBracket tokens)
      ask (.suffixes depth (.index base position)) tokens
  | .leftParen => do
      let (args, tokens) ← ask (.items .round depth) tokens.tail
      ask (.suffixes depth (.call base args)) tokens
  | _ => pure (base, tokens)

/-- Expressions separated by commas, through the closing token. -/
def items (bracket : Bracket) (depth : Nat) (tokens : List Lexeme) :
    Plan (List Expr × List Lexeme) :=
  if current tokens = bracket.close then pure ([], tokens.tail)
  else do
    let (item, tokens) ← ask (.expression depth) tokens
    if current tokens = .comma then
      let (rest, tokens) ← ask (.items bracket depth) tokens.tail
      pure (item :: rest, tokens)
    else if current tokens = bracket.close then pure ([item], tokens.tail)
    else stop (unexpected tokens)

/-- A literal, a name, or an expression in brackets. -/
def primary (limits : ParseLimits) (depth : Nat) (tokens : List Lexeme) :
    Plan (Expr × List Lexeme) :=
  match current tokens with
  | .null => pure (.null, tokens.tail)
  | .bool b => pure (.bool b, tokens.tail)
  | .int n => pure (.int n, tokens.tail)
  | .float x => pure (.float x, tokens.tail)
  | .str _ =>
      let (s, tokens) := adjacentStrings tokens
      pure (.str s, tokens)
  | .identifier name => pure (.var name, tokens.tail)
  | .path parts => pure (.path parts, tokens.tail)
  | .leftParen => do
      let depth ← take (enter limits depth)
      ask (.parenthesised depth) tokens.tail
  | .leftBracket => do
      let depth ← take (enter limits depth)
      let (list, tokens) ← ask (.items .square depth) tokens.tail
      pure (.list list, tokens)
  | _ => stop (unexpected tokens)

/-- What follows an opening parenthesis: nothing, one expression, or a list with a comma. -/
def parenthesised (depth : Nat) (tokens : List Lexeme) : Plan (Expr × List Lexeme) :=
  if current tokens = .rightParen then pure (.list [], tokens.tail)
  else do
    let (first, tokens) ← ask (.expression depth) tokens
    match current tokens with
    | .rightParen => pure (first, tokens.tail)
    | .comma =>
        let (rest, tokens) ← ask (.items .round depth) tokens.tail
        pure (.list (first :: rest), tokens)
    | _ => stop (.refused (.missingDelimiter ')' (currentLine tokens)))

/-- Names joined by dots. -/
def dottedName (tokens : List Lexeme) : Plan (List String × List Lexeme) := do
  let (name, tokens) ← take (expectName tokens)
  match current tokens with
  | .dot =>
      let (rest, tokens) ← ask .dottedName tokens.tail
      pure (name :: rest, tokens)
  | _ => pure ([name], tokens)

/-- The modules of an import, separated by commas. -/
def imports (tokens : List Lexeme) : Plan (List Statement × List Lexeme) := do
  let (path, tokens) ← ask .dottedName tokens
  match current tokens with
  | .comma =>
      let (rest, tokens) ← ask .imports tokens.tail
      pure (.importModule path :: rest, tokens)
  | _ => pure ([.importModule path], tokens)

/-- What is raised: nothing, a kind of error, or a kind with a message in parentheses. -/
def raised (depth : Nat) (tokens : List Lexeme) : Plan (Statement × List Lexeme) :=
  match current tokens with
  | .newline | .semicolon | .eof | .dedent => pure (.raise "RuntimeError" none, tokens)
  | _ => do
      let (kind, tokens) ← take (expectName tokens)
      if current tokens = .leftParen then
        let tokens := tokens.tail
        if current tokens = .rightParen then pure (.raise kind none, tokens.tail)
        else
          let (message, tokens) ← ask (.expression depth) tokens
          let tokens := if current tokens = .comma then tokens.tail else tokens
          let tokens ← take (expect .rightParen tokens)
          pure (.raise kind (some message), tokens)
      else pure (.raise kind none, tokens)

/-- An assertion with its optional message. -/
def asserted (depth : Nat) (tokens : List Lexeme) : Plan (Statement × List Lexeme) := do
  let (condition, tokens) ← ask (.expression depth) tokens
  if current tokens = .comma then
    let (message, tokens) ← ask (.expression depth) tokens.tail
    pure (.assert condition (some message), tokens)
  else pure (.assert condition none, tokens)

/-- An expression, or the binding of a name to one. -/
def assignment (depth : Nat) (tokens : List Lexeme) : Plan (Statement × List Lexeme) := do
  let line := currentLine tokens
  let (e, tokens) ← ask (.expression depth) tokens
  if current tokens = .assign then
    match e with
    | .var target =>
        let (value, tokens) ← ask (.expression depth) tokens.tail
        pure (.assign target value, tokens)
    | _ => stop (.refused (.invalidAssignment line))
  else pure (.expr e, tokens)

/-- A statement that fits on a part of a line; an import may stand for several. -/
def simple (depth : Nat) (tokens : List Lexeme) : Plan (List Statement × List Lexeme) :=
  let single (plan : Plan (Statement × List Lexeme)) : Plan (List Statement × List Lexeme) := do
    let (statement, tokens) ← plan
    pure ([statement], tokens)
  match current tokens with
  | .passWord => pure ([.pass], tokens.tail)
  | .raiseWord => single (raised depth tokens.tail)
  | .assertWord => single (asserted depth tokens.tail)
  | .importWord => ask .imports tokens.tail
  | _ => single (assignment depth tokens)

/-- Simple statements separated by semicolons, through the end of the line. -/
def simpleLine (depth : Nat) (tokens : List Lexeme) : Plan (List Statement × List Lexeme) := do
  let (first, tokens) ← simple depth tokens
  match current tokens with
  | .newline => pure (first, tokens.tail)
  | .eof | .dedent => pure (first, tokens)
  | .semicolon =>
      let tokens := tokens.tail
      match current tokens with
      | .newline => pure (first, tokens.tail)
      | .eof => pure (first, tokens)
      | _ =>
          let (rest, tokens) ← ask (.simpleLine depth) tokens
          pure (first ++ rest, tokens)
  | _ => stop (unexpected tokens)

/-- The statements that begin at the front: one compound statement, or a line of simple ones. -/
def statement (depth : Nat) (tokens : List Lexeme) : Plan (List Statement × List Lexeme) :=
  match current tokens with
  | .ifWord => do
      let (condition, tokens) ← ask (.expression depth) tokens.tail
      let (body, tokens) ← ask (.suite depth) tokens
      let ((branches, otherwise), tokens) ← ask (.alternatives depth) tokens
      pure ([.branch ((condition, body) :: branches) otherwise], tokens)
  | .forWord => do
      let (name, tokens) ← take (expectName tokens.tail)
      let tokens ← take (expect .isIn tokens)
      let (iterable, tokens) ← ask (.expression depth) tokens
      let (body, tokens) ← ask (.suite depth) tokens
      pure ([.loop name iterable body], tokens)
  | _ => ask (.simpleLine depth) tokens

/-- The further branches of a conditional statement, and what happens otherwise. -/
def alternatives (depth : Nat) (tokens : List Lexeme) :
    Plan ((List (Expr × List Statement) × List Statement) × List Lexeme) :=
  match current tokens with
  | .elifWord => do
      let (condition, tokens) ← ask (.expression depth) tokens.tail
      let (body, tokens) ← ask (.suite depth) tokens
      let ((branches, otherwise), tokens) ← ask (.alternatives depth) tokens
      pure (((condition, body) :: branches, otherwise), tokens)
  | .elseWord => do
      let (body, tokens) ← ask (.suite depth) tokens.tail
      pure (([], body), tokens)
  | _ => pure (([], []), tokens)

/-- The body of a compound statement: the rest of its line, or an indented block. -/
def suite (limits : ParseLimits) (depth : Nat) (tokens : List Lexeme) :
    Plan (List Statement × List Lexeme) := do
  let tokens ← take (expect .colon tokens)
  if current tokens = .newline then
    let tokens ← take (expect .indent tokens.tail)
    let depth ← take (enter limits depth)
    ask (.block depth) tokens
  else ask (.simpleLine depth) tokens

/-- The statements of an indented block, through its end. -/
def block (depth : Nat) (tokens : List Lexeme) : Plan (List Statement × List Lexeme) :=
  match current tokens with
  | .dedent => pure ([], tokens.tail)
  | .eof => pure ([], tokens)
  | _ => do
      let (first, tokens) ← ask (.statement depth) tokens
      let (rest, tokens) ← ask (.block depth) (skipNewlines tokens)
      pure (first ++ rest, tokens)

/-- The statements of a whole program. -/
def program (tokens : List Lexeme) : Plan (List Statement × List Lexeme) :=
  match current tokens with
  | .eof => pure ([], [])
  | _ => do
      let (first, tokens) ← ask (.statement 0) tokens
      let (rest, tokens) ← ask .program (skipNewlines tokens)
      pure (first ++ rest, tokens)

end Plan

/-- The plan by which a phrase is read. -/
def Phrase.plan (limits : ParseLimits) :
    (phrase : Phrase) → List Lexeme → Plan (phrase.Value × List Lexeme)
  | .expression depth, tokens => .expression limits depth tokens
  | .chain level depth, tokens => .chain level depth tokens
  | .chainFrom level depth left, tokens => .chainFrom level depth left tokens
  | .operand level depth, tokens => .operand level depth tokens
  | .negation depth, tokens => .negation limits depth tokens
  | .comparisons depth, tokens => .comparisons depth tokens
  | .signed depth, tokens => .signed limits depth tokens
  | .suffixes depth base, tokens => .suffixes depth base tokens
  | .items bracket depth, tokens => .items bracket depth tokens
  | .primary depth, tokens => .primary limits depth tokens
  | .parenthesised depth, tokens => .parenthesised depth tokens
  | .dottedName, tokens => .dottedName tokens
  | .imports, tokens => .imports tokens
  | .simpleLine depth, tokens => .simpleLine depth tokens
  | .statement depth, tokens => .statement depth tokens
  | .alternatives depth, tokens => .alternatives depth tokens
  | .suite depth, tokens => .suite limits depth tokens
  | .block depth, tokens => .block depth tokens
  | .program, tokens => .program tokens

/-! ## Reading carries out the plans -/

/-- Two ways to go on from a reading agree if they do for all that may be found. -/
theorem found_congr {α β : Type} {outcome : Except Halt (α × List Lexeme)}
    {next next' : α × List Lexeme → Except Halt β}
    (hnext : ∀ value rest, next (value, rest) = next' (value, rest)) :
    outcome >>= next = outcome >>= next' :=
  bind_congr rfl fun found _ => hnext found.1 found.2

namespace Plan

variable {limits : ParseLimits} {fuel : Nat}

theorem expression_answered (depth : Nat) (tokens : List Lexeme) :
    (Plan.expression limits depth tokens).answered (read limits fuel) =
      Parser.expression limits (fuel + 1) depth tokens := by
  rw [Parser.expression, Plan.expression, answered_bind, answered_take]
  refine bind_congr rfl fun depth _ => ?_
  rw [answered_bind, answered_ask]
  refine found_congr fun value rest => ?_
  dsimp only
  generalize current rest = token
  cases token with
  | ifWord => simp [read]
  | _ => rfl

theorem chain_answered (level : Level) (depth : Nat) (tokens : List Lexeme) :
    (Plan.chain level depth tokens).answered (read limits fuel) =
      Parser.chain limits (fuel + 1) level depth tokens := by
  simp [Parser.chain, Plan.chain, read]

theorem chainFrom_answered (level : Level) (depth : Nat) (left : Expr) (tokens : List Lexeme) :
    (Plan.chainFrom level depth left tokens).answered (read limits fuel) =
      Parser.chainFrom limits (fuel + 1) level depth left tokens := by
  rw [Parser.chainFrom, Plan.chainFrom]
  cases level.operator? (current tokens) with
  | some build => simp [read]
  | none => rfl

theorem operand_answered (level : Level) (depth : Nat) (tokens : List Lexeme) :
    (Plan.operand level depth tokens).answered (read limits fuel) =
      Parser.operand limits (fuel + 1) level depth tokens := by
  cases level <;> simp [Parser.operand, Plan.operand, read]

theorem negation_answered (depth : Nat) (tokens : List Lexeme) :
    (Plan.negation limits depth tokens).answered (read limits fuel) =
      Parser.negation limits (fuel + 1) depth tokens := by
  rw [Parser.negation, Plan.negation]
  generalize current tokens = token
  cases token with
  | not => simp [read]
  | _ =>
      simp only [answered_bind, answered_ask, read]
      refine found_congr fun first rest => found_congr fun links left => ?_
      cases links <;> rfl

theorem comparisons_answered (depth : Nat) (tokens : List Lexeme) :
    (Plan.comparisons depth tokens).answered (read limits fuel) =
      Parser.comparisons limits (fuel + 1) depth tokens := by
  rw [Parser.comparisons, Plan.comparisons]
  cases comparison? tokens with
  | some found => simp [read]
  | none => rfl

theorem signed_answered (depth : Nat) (tokens : List Lexeme) :
    (Plan.signed limits depth tokens).answered (read limits fuel) =
      Parser.signed limits (fuel + 1) depth tokens := by
  rw [Parser.signed, Plan.signed]
  generalize current tokens = token
  cases token <;> simp [read]

theorem suffixes_answered (depth : Nat) (base : Expr) (tokens : List Lexeme) :
    (Plan.suffixes depth base tokens).answered (read limits fuel) =
      Parser.suffixes limits (fuel + 1) depth base tokens := by
  rw [Parser.suffixes, Plan.suffixes]
  generalize current tokens = token
  cases token with
  | dot | leftBracket | leftParen => simp [read, Bracket.close]
  | _ => rfl

theorem items_answered (bracket : Bracket) (depth : Nat) (tokens : List Lexeme) :
    (Plan.items bracket depth tokens).answered (read limits fuel) =
      Parser.items limits (fuel + 1) bracket.close depth tokens := by
  simp [Parser.items, Plan.items, apply_ite (answered _), read]

theorem primary_answered (depth : Nat) (tokens : List Lexeme) :
    (Plan.primary limits depth tokens).answered (read limits fuel) =
      Parser.primary limits (fuel + 1) depth tokens := by
  rw [Parser.primary, Plan.primary]
  generalize current tokens = token
  cases token with
  | leftParen | leftBracket => simp [read, Bracket.close]
  | _ => rfl

theorem parenthesised_answered (depth : Nat) (tokens : List Lexeme) :
    (Plan.parenthesised depth tokens).answered (read limits fuel) =
      Parser.parenthesised limits (fuel + 1) depth tokens := by
  rw [Parser.parenthesised, Plan.parenthesised]
  split
  · rfl
  · rw [answered_bind, answered_ask]
    refine found_congr fun first rest => ?_
    dsimp only
    generalize current rest = token
    cases token with
    | comma => simp [read, Bracket.close]
    | _ => rfl

theorem dottedName_answered (tokens : List Lexeme) :
    (Plan.dottedName tokens).answered (read limits fuel) = Parser.dottedName (fuel + 1) tokens := by
  rw [Parser.dottedName, Plan.dottedName, answered_bind, answered_take]
  refine found_congr fun name rest => ?_
  dsimp only
  generalize current rest = token
  cases token with
  | dot => simp [read]
  | _ => rfl

theorem imports_answered (tokens : List Lexeme) :
    (Plan.imports tokens).answered (read limits fuel) = Parser.imports (fuel + 1) tokens := by
  rw [Parser.imports, Plan.imports, answered_bind, answered_ask]
  refine found_congr fun path rest => ?_
  dsimp only
  generalize current rest = token
  cases token with
  | comma => simp [read]
  | _ => rfl

theorem raised_answered (depth : Nat) (tokens : List Lexeme) :
    (Plan.raised depth tokens).answered (read limits fuel) =
      Parser.raised limits fuel depth tokens := by
  unfold Plan.raised Parser.raised
  generalize current tokens = token
  cases token with
  | newline | semicolon | eof | dedent => rfl
  | _ => simp [apply_ite (answered _), read]

theorem asserted_answered (depth : Nat) (tokens : List Lexeme) :
    (Plan.asserted depth tokens).answered (read limits fuel) =
      Parser.asserted limits fuel depth tokens := by
  simp [Plan.asserted, Parser.asserted, apply_ite (answered _), read]

theorem assignment_answered (depth : Nat) (tokens : List Lexeme) :
    (Plan.assignment depth tokens).answered (read limits fuel) =
      Parser.assignment limits fuel depth tokens := by
  rw [Plan.assignment, Parser.assignment, answered_bind, answered_ask]
  refine found_congr fun e rest => ?_
  dsimp only
  split
  · cases e with
    | var target => simp [read]
    | _ => rfl
  · rfl

theorem simple_answered (depth : Nat) (tokens : List Lexeme) :
    (Plan.simple depth tokens).answered (read limits fuel) =
      Parser.simple limits fuel depth tokens := by
  unfold Plan.simple Parser.simple
  dsimp only
  generalize current tokens = token
  cases token with
  | passWord => rfl
  | importWord => simp [read]
  | raiseWord => rw [answered_bind, raised_answered]; rfl
  | assertWord => rw [answered_bind, asserted_answered]; rfl
  | _ => rw [answered_bind, assignment_answered]; rfl

theorem simpleLine_answered (depth : Nat) (tokens : List Lexeme) :
    (Plan.simpleLine depth tokens).answered (read limits fuel) =
      Parser.simpleLine limits (fuel + 1) depth tokens := by
  rw [Parser.simpleLine, Plan.simpleLine, answered_bind, simple_answered]
  refine found_congr fun first rest => ?_
  dsimp only
  generalize current rest = token
  cases token with
  | semicolon =>
      dsimp only
      generalize current rest.tail = token
      cases token with
      | newline | eof => rfl
      | _ => simp [read]
  | _ => rfl

theorem statement_answered (depth : Nat) (tokens : List Lexeme) :
    (Plan.statement depth tokens).answered (read limits fuel) =
      Parser.statement limits (fuel + 1) depth tokens := by
  rw [Parser.statement, Plan.statement]
  generalize current tokens = token
  cases token <;> simp [read]

theorem alternatives_answered (depth : Nat) (tokens : List Lexeme) :
    (Plan.alternatives depth tokens).answered (read limits fuel) =
      Parser.alternatives limits (fuel + 1) depth tokens := by
  rw [Parser.alternatives, Plan.alternatives]
  generalize current tokens = token
  cases token with
  | elifWord | elseWord => simp [read]
  | _ => rfl

theorem suite_answered (depth : Nat) (tokens : List Lexeme) :
    (Plan.suite limits depth tokens).answered (read limits fuel) =
      Parser.suite limits (fuel + 1) depth tokens := by
  simp [Parser.suite, Plan.suite, apply_ite (answered _), read]

theorem block_answered (depth : Nat) (tokens : List Lexeme) :
    (Plan.block depth tokens).answered (read limits fuel) =
      Parser.block limits (fuel + 1) depth tokens := by
  rw [Parser.block, Plan.block]
  generalize current tokens = token
  cases token with
  | dedent | eof => rfl
  | _ => simp [read]

theorem program_answered (tokens : List Lexeme) :
    (Plan.program tokens).answered (read limits fuel) =
      (Parser.program limits (fuel + 1) tokens).map fun body => (body, []) := by
  unfold Plan.program
  split
  next heof =>
    rw [Parser.program, heof]
    rfl
  next heof =>
    rw [program_of_ne_eof fuel heof, answered_bind, answered_ask, read]
    cases Parser.statement limits fuel 0 tokens with
    | error halt => rfl
    | ok found =>
      simp only [ok_bind, answered_bind, answered_ask, read]
      cases Parser.program limits fuel (skipNewlines found.2) <;> rfl

end Plan

/-- A phrase is read by its plan, and what the plan calls for is read with a budget that is smaller
by one. -/
theorem read_succ (limits : ParseLimits) (fuel : Nat) (phrase : Phrase) (tokens : List Lexeme) :
    read limits (fuel + 1) phrase tokens =
      (phrase.plan limits tokens).answered (read limits fuel) := by
  cases phrase with
  | expression depth => exact (Plan.expression_answered depth tokens).symm
  | chain level depth => exact (Plan.chain_answered level depth tokens).symm
  | chainFrom level depth left => exact (Plan.chainFrom_answered level depth left tokens).symm
  | operand level depth => exact (Plan.operand_answered level depth tokens).symm
  | negation depth => exact (Plan.negation_answered depth tokens).symm
  | comparisons depth => exact (Plan.comparisons_answered depth tokens).symm
  | signed depth => exact (Plan.signed_answered depth tokens).symm
  | suffixes depth base => exact (Plan.suffixes_answered depth base tokens).symm
  | items bracket depth => exact (Plan.items_answered bracket depth tokens).symm
  | primary depth => exact (Plan.primary_answered depth tokens).symm
  | parenthesised depth => exact (Plan.parenthesised_answered depth tokens).symm
  | dottedName => exact (Plan.dottedName_answered tokens).symm
  | imports => exact (Plan.imports_answered tokens).symm
  | simpleLine depth => exact (Plan.simpleLine_answered depth tokens).symm
  | statement depth => exact (Plan.statement_answered depth tokens).symm
  | alternatives depth => exact (Plan.alternatives_answered depth tokens).symm
  | suite depth => exact (Plan.suite_answered depth tokens).symm
  | block depth => exact (Plan.block_answered depth tokens).symm
  | program => exact (Plan.program_answered tokens).symm

end SchemaGuard.Parser
