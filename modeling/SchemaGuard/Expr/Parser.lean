import SchemaGuard.Expr.Lexer

/-! # Reading programs

Statements and expressions are read from tokens by descent through the levels of
precedence. Every function takes a budget that each call lowers; `budget` grants a fixed
number of calls for each token, and running out of it is an outcome of its own. Brackets,
signs and nested blocks count towards the permitted depth.
-/

namespace SchemaGuard

/-- The limits under which sources are read. -/
structure ParseLimits where
  maxDepth : Nat := 64
  maxLength : Nat := 16384
deriving DecidableEq, Repr

namespace Parser

/-- Why reading stops: the budget is used up, or the source is refused. -/
inductive Halt where
  | exhausted
  | refused (error : ParseError)
deriving DecidableEq

/-- The token at the front. -/
def current : List Lexeme → Token
  | [] => .eof
  | lexeme :: _ => lexeme.token

/-- The line of the token at the front. -/
def currentLine : List Lexeme → Nat
  | [] => 1
  | lexeme :: _ => lexeme.line

/-- The refusal of the token at the front. -/
def unexpected (tokens : List Lexeme) : Halt :=
  .refused <| match current tokens with
    | .eof => .unexpectedEof (currentLine tokens)
    | .indent => .unexpectedIndent (currentLine tokens)
    | token => .unexpectedToken token (currentLine tokens)

/-- Takes a token that has to come next. -/
def expect (token : Token) (tokens : List Lexeme) : Except Halt (List Lexeme) :=
  if current tokens = token then .ok tokens.tail else .error (unexpected tokens)

/-- Takes a name that has to come next. -/
def expectName (tokens : List Lexeme) : Except Halt (String × List Lexeme) :=
  match current tokens with
  | .identifier name => .ok (name, tokens.tail)
  | _ => .error (unexpected tokens)

/-- One level deeper, unless that is too deep. -/
def enter (limits : ParseLimits) (depth : Nat) : Except Halt Nat :=
  if depth + 1 ≤ limits.maxDepth then .ok (depth + 1)
  else .error (.refused (.tooDeep (depth + 1) limits.maxDepth))

/-- Passes over line ends. -/
def skipNewlines : List Lexeme → List Lexeme
  | [] => []
  | lexeme :: rest => if lexeme.token = .newline then skipNewlines rest else lexeme :: rest

/-- The levels at which operators of one precedence group to the left. -/
inductive Level where
  | disjunction
  | conjunction
  | sum
  | term
deriving DecidableEq, Repr

/-- The operation that a token denotes at a level. -/
def Level.operator? : Level → Token → Option (Expr → Expr → Expr)
  | .disjunction, .or => some .or
  | .conjunction, .and => some .and
  | .sum, .plus => some (.binary .add)
  | .sum, .minus => some (.binary .subtract)
  | .term, .star => some (.binary .multiply)
  | .term, .slash => some (.binary .divide)
  | .term, .doubleSlash => some (.binary .floorDivide)
  | .term, .percent => some (.binary .modulo)
  | _, _ => none

/-- The comparison at the front, of one token or two, and what follows it. -/
def comparison? (tokens : List Lexeme) : Option (CompareOp × List Lexeme) :=
  match current tokens, current tokens.tail with
  | .equal, _ => some (.equal, tokens.tail)
  | .notEqual, _ => some (.notEqual, tokens.tail)
  | .less, _ => some (.less, tokens.tail)
  | .greater, _ => some (.greater, tokens.tail)
  | .lessEqual, _ => some (.lessOrEqual, tokens.tail)
  | .greaterEqual, _ => some (.greaterOrEqual, tokens.tail)
  | .isIn, _ => some (.isIn, tokens.tail)
  | .not, .isIn => some (.notIn, tokens.tail.tail)
  | .isSame, .not => some (.isNotSame, tokens.tail.tail)
  | .isSame, _ => some (.isSame, tokens.tail)
  | _, _ => none

/-- The literals that follow one another, joined, and what follows them. -/
def adjacentStrings : List Lexeme → String × List Lexeme
  | [] => ("", [])
  | lexeme :: rest =>
      match lexeme.token with
      | .str s =>
          let (more, rest) := adjacentStrings rest
          (s ++ more, rest)
      | _ => ("", lexeme :: rest)

mutual

/-- An expression, which may choose between two by a condition. -/
def expression (limits : ParseLimits) :
    Nat → Nat → List Lexeme → Except Halt (Expr × List Lexeme)
  | 0, _, _ => .error .exhausted
  | fuel + 1, depth, tokens => do
      let depth ← enter limits depth
      let (value, tokens) ← chain limits fuel .disjunction depth tokens
      match current tokens with
      | .ifWord =>
          let (condition, tokens) ← chain limits fuel .disjunction depth tokens.tail
          let tokens ← expect .elseWord tokens
          let (other, tokens) ← expression limits fuel depth tokens
          pure (.cond condition value other, tokens)
      | _ => pure (value, tokens)

/-- Operands joined by the operators of one level. -/
def chain (limits : ParseLimits) :
    Nat → Level → Nat → List Lexeme → Except Halt (Expr × List Lexeme)
  | 0, _, _, _ => .error .exhausted
  | fuel + 1, level, depth, tokens => do
      let (left, tokens) ← operand limits fuel level depth tokens
      chainFrom limits fuel level depth left tokens

/-- The further operands of a chain whose first part has been read. -/
def chainFrom (limits : ParseLimits) :
    Nat → Level → Nat → Expr → List Lexeme → Except Halt (Expr × List Lexeme)
  | 0, _, _, _, _ => .error .exhausted
  | fuel + 1, level, depth, left, tokens =>
      match level.operator? (current tokens) with
      | some build => do
          let (right, tokens) ← operand limits fuel level depth tokens.tail
          chainFrom limits fuel level depth (build left right) tokens
      | none => .ok (left, tokens)

/-- An operand of a level: an expression of the next tighter one. -/
def operand (limits : ParseLimits) :
    Nat → Level → Nat → List Lexeme → Except Halt (Expr × List Lexeme)
  | 0, _, _, _ => .error .exhausted
  | fuel + 1, .disjunction, depth, tokens => chain limits fuel .conjunction depth tokens
  | fuel + 1, .conjunction, depth, tokens => negation limits fuel depth tokens
  | fuel + 1, .sum, depth, tokens => chain limits fuel .term depth tokens
  | fuel + 1, .term, depth, tokens => signed limits fuel depth tokens

/-- A comparison, negated any number of times. -/
def negation (limits : ParseLimits) :
    Nat → Nat → List Lexeme → Except Halt (Expr × List Lexeme)
  | 0, _, _ => .error .exhausted
  | fuel + 1, depth, tokens =>
      match current tokens with
      | .not => do
          let depth ← enter limits depth
          let (inner, tokens) ← negation limits fuel depth tokens.tail
          pure (.not inner, tokens)
      | _ => do
          let (first, tokens) ← chain limits fuel .sum depth tokens
          let (links, tokens) ← comparisons limits fuel depth tokens
          match links with
          | [] => pure (first, tokens)
          | links => pure (.compare first links, tokens)

/-- The comparisons that follow a first operand. -/
def comparisons (limits : ParseLimits) :
    Nat → Nat → List Lexeme → Except Halt (List (CompareOp × Expr) × List Lexeme)
  | 0, _, _ => .error .exhausted
  | fuel + 1, depth, tokens =>
      match comparison? tokens with
      | some (op, tokens) => do
          let (right, tokens) ← chain limits fuel .sum depth tokens
          let (links, tokens) ← comparisons limits fuel depth tokens
          pure ((op, right) :: links, tokens)
      | none => .ok ([], tokens)

/-- An operand with any number of signs, of which a plus leaves no trace. -/
def signed (limits : ParseLimits) :
    Nat → Nat → List Lexeme → Except Halt (Expr × List Lexeme)
  | 0, _, _ => .error .exhausted
  | fuel + 1, depth, tokens =>
      match current tokens with
      | .minus => do
          let depth ← enter limits depth
          let (inner, tokens) ← signed limits fuel depth tokens.tail
          pure (.negate inner, tokens)
      | .plus => do
          let depth ← enter limits depth
          signed limits fuel depth tokens.tail
      | _ => do
          let (base, tokens) ← primary limits fuel depth tokens
          suffixes limits fuel depth base tokens

/-- Attributes, positions and calls that follow an expression. -/
def suffixes (limits : ParseLimits) :
    Nat → Nat → Expr → List Lexeme → Except Halt (Expr × List Lexeme)
  | 0, _, _, _ => .error .exhausted
  | fuel + 1, depth, base, tokens =>
      match current tokens with
      | .dot => do
          let (name, tokens) ← expectName tokens.tail
          suffixes limits fuel depth (.attr base name) tokens
      | .leftBracket => do
          let (position, tokens) ← expression limits fuel depth tokens.tail
          let tokens ← expect .rightBracket tokens
          suffixes limits fuel depth (.index base position) tokens
      | .leftParen => do
          let (args, tokens) ← items limits fuel .rightParen depth tokens.tail
          suffixes limits fuel depth (.call base args) tokens
      | _ => .ok (base, tokens)

/-- Expressions separated by commas, through the closing token. -/
def items (limits : ParseLimits) :
    Nat → Token → Nat → List Lexeme → Except Halt (List Expr × List Lexeme)
  | 0, _, _, _ => .error .exhausted
  | fuel + 1, close, depth, tokens =>
      if current tokens = close then .ok ([], tokens.tail)
      else do
        let (item, tokens) ← expression limits fuel depth tokens
        if current tokens = .comma then
          let (rest, tokens) ← items limits fuel close depth tokens.tail
          pure (item :: rest, tokens)
        else if current tokens = close then pure ([item], tokens.tail)
        else .error (unexpected tokens)

/-- A literal, a name, or an expression in brackets. -/
def primary (limits : ParseLimits) :
    Nat → Nat → List Lexeme → Except Halt (Expr × List Lexeme)
  | 0, _, _ => .error .exhausted
  | fuel + 1, depth, tokens =>
      match current tokens with
      | .null => .ok (.null, tokens.tail)
      | .bool b => .ok (.bool b, tokens.tail)
      | .int n => .ok (.int n, tokens.tail)
      | .float x => .ok (.float x, tokens.tail)
      | .str _ =>
          let (s, tokens) := adjacentStrings tokens
          .ok (.str s, tokens)
      | .identifier name => .ok (.var name, tokens.tail)
      | .path parts => .ok (.path parts, tokens.tail)
      | .leftParen => do
          let depth ← enter limits depth
          parenthesised limits fuel depth tokens.tail
      | .leftBracket => do
          let depth ← enter limits depth
          let (list, tokens) ← items limits fuel .rightBracket depth tokens.tail
          pure (.list list, tokens)
      | _ => .error (unexpected tokens)

/-- What follows an opening parenthesis: nothing, one expression, or a list with a comma. -/
def parenthesised (limits : ParseLimits) :
    Nat → Nat → List Lexeme → Except Halt (Expr × List Lexeme)
  | 0, _, _ => .error .exhausted
  | fuel + 1, depth, tokens =>
      if current tokens = .rightParen then .ok (.list [], tokens.tail)
      else do
        let (first, tokens) ← expression limits fuel depth tokens
        match current tokens with
        | .rightParen => pure (first, tokens.tail)
        | .comma =>
            let (rest, tokens) ← items limits fuel .rightParen depth tokens.tail
            pure (.list (first :: rest), tokens)
        | _ => .error (.refused (.missingDelimiter ')' (currentLine tokens)))

end

/-- Names joined by dots. -/
def dottedName : Nat → List Lexeme → Except Halt (List String × List Lexeme)
  | 0, _ => .error .exhausted
  | fuel + 1, tokens => do
      let (name, tokens) ← expectName tokens
      match current tokens with
      | .dot =>
          let (rest, tokens) ← dottedName fuel tokens.tail
          pure (name :: rest, tokens)
      | _ => pure ([name], tokens)

/-- The modules of an import, separated by commas. -/
def imports : Nat → List Lexeme → Except Halt (List Statement × List Lexeme)
  | 0, _ => .error .exhausted
  | fuel + 1, tokens => do
      let (path, tokens) ← dottedName fuel tokens
      match current tokens with
      | .comma =>
          let (rest, tokens) ← imports fuel tokens.tail
          pure (.importModule path :: rest, tokens)
      | _ => pure ([.importModule path], tokens)

/-- What is raised: nothing, a kind of error, or a kind with a message in parentheses. -/
def raised (limits : ParseLimits) (fuel depth : Nat) (tokens : List Lexeme) :
    Except Halt (Statement × List Lexeme) :=
  match current tokens with
  | .newline | .semicolon | .eof | .dedent => .ok (.raise "RuntimeError" none, tokens)
  | _ => do
      let (kind, tokens) ← expectName tokens
      if current tokens = .leftParen then
        let tokens := tokens.tail
        if current tokens = .rightParen then pure (.raise kind none, tokens.tail)
        else
          let (message, tokens) ← expression limits fuel depth tokens
          let tokens := if current tokens = .comma then tokens.tail else tokens
          let tokens ← expect .rightParen tokens
          pure (.raise kind (some message), tokens)
      else pure (.raise kind none, tokens)

/-- An assertion with its optional message. -/
def asserted (limits : ParseLimits) (fuel depth : Nat) (tokens : List Lexeme) :
    Except Halt (Statement × List Lexeme) := do
  let (condition, tokens) ← expression limits fuel depth tokens
  if current tokens = .comma then
    let (message, tokens) ← expression limits fuel depth tokens.tail
    pure (.assert condition (some message), tokens)
  else pure (.assert condition none, tokens)

/-- An expression, or the binding of a name to one. -/
def assignment (limits : ParseLimits) (fuel depth : Nat) (tokens : List Lexeme) :
    Except Halt (Statement × List Lexeme) := do
  let line := currentLine tokens
  let (e, tokens) ← expression limits fuel depth tokens
  if current tokens = .assign then
    match e with
    | .var target =>
        let (value, tokens) ← expression limits fuel depth tokens.tail
        pure (.assign target value, tokens)
    | _ => .error (.refused (.invalidAssignment line))
  else pure (.expr e, tokens)

/-- A statement that fits on a part of a line; an import may stand for several. -/
def simple (limits : ParseLimits) (fuel depth : Nat) (tokens : List Lexeme) :
    Except Halt (List Statement × List Lexeme) :=
  let single (reading : Except Halt (Statement × List Lexeme)) :=
    reading.map (fun (statement, tokens) => ([statement], tokens))
  match current tokens with
  | .passWord => .ok ([.pass], tokens.tail)
  | .raiseWord => single (raised limits fuel depth tokens.tail)
  | .assertWord => single (asserted limits fuel depth tokens.tail)
  | .importWord => imports fuel tokens.tail
  | _ => single (assignment limits fuel depth tokens)

/-- Simple statements separated by semicolons, through the end of the line. -/
def simpleLine (limits : ParseLimits) :
    Nat → Nat → List Lexeme → Except Halt (List Statement × List Lexeme)
  | 0, _, _ => .error .exhausted
  | fuel + 1, depth, tokens => do
      let (first, tokens) ← simple limits fuel depth tokens
      match current tokens with
      | .newline => pure (first, tokens.tail)
      | .eof | .dedent => pure (first, tokens)
      | .semicolon =>
          let tokens := tokens.tail
          match current tokens with
          | .newline => pure (first, tokens.tail)
          | .eof => pure (first, tokens)
          | _ =>
              let (rest, tokens) ← simpleLine limits fuel depth tokens
              pure (first ++ rest, tokens)
      | _ => .error (unexpected tokens)

mutual

/-- The statements that begin at the front: one compound statement, or a line of simple ones. -/
def statement (limits : ParseLimits) :
    Nat → Nat → List Lexeme → Except Halt (List Statement × List Lexeme)
  | 0, _, _ => .error .exhausted
  | fuel + 1, depth, tokens =>
      match current tokens with
      | .ifWord => do
          let (condition, tokens) ← expression limits fuel depth tokens.tail
          let (body, tokens) ← suite limits fuel depth tokens
          let ((branches, otherwise), tokens) ← alternatives limits fuel depth tokens
          pure ([.branch ((condition, body) :: branches) otherwise], tokens)
      | .forWord => do
          let (name, tokens) ← expectName tokens.tail
          let tokens ← expect .isIn tokens
          let (iterable, tokens) ← expression limits fuel depth tokens
          let (body, tokens) ← suite limits fuel depth tokens
          pure ([.loop name iterable body], tokens)
      | _ => simpleLine limits fuel depth tokens

/-- The further branches of a conditional statement, and what happens otherwise. -/
def alternatives (limits : ParseLimits) : Nat → Nat → List Lexeme →
    Except Halt ((List (Expr × List Statement) × List Statement) × List Lexeme)
  | 0, _, _ => .error .exhausted
  | fuel + 1, depth, tokens =>
      match current tokens with
      | .elifWord => do
          let (condition, tokens) ← expression limits fuel depth tokens.tail
          let (body, tokens) ← suite limits fuel depth tokens
          let ((branches, otherwise), tokens) ← alternatives limits fuel depth tokens
          pure (((condition, body) :: branches, otherwise), tokens)
      | .elseWord => do
          let (body, tokens) ← suite limits fuel depth tokens.tail
          pure (([], body), tokens)
      | _ => .ok (([], []), tokens)

/-- The body of a compound statement: the rest of its line, or an indented block. -/
def suite (limits : ParseLimits) :
    Nat → Nat → List Lexeme → Except Halt (List Statement × List Lexeme)
  | 0, _, _ => .error .exhausted
  | fuel + 1, depth, tokens => do
      let tokens ← expect .colon tokens
      if current tokens = .newline then
        let tokens ← expect .indent tokens.tail
        let depth ← enter limits depth
        block limits fuel depth tokens
      else simpleLine limits fuel depth tokens

/-- The statements of an indented block, through its end. -/
def block (limits : ParseLimits) :
    Nat → Nat → List Lexeme → Except Halt (List Statement × List Lexeme)
  | 0, _, _ => .error .exhausted
  | fuel + 1, depth, tokens =>
      match current tokens with
      | .dedent => .ok ([], tokens.tail)
      | .eof => .ok ([], tokens)
      | _ => do
          let (first, tokens) ← statement limits fuel depth tokens
          let (rest, tokens) ← block limits fuel depth (skipNewlines tokens)
          pure (first ++ rest, tokens)

end

/-- The statements of a whole program. -/
def program (limits : ParseLimits) : Nat → List Lexeme → Except Halt (List Statement)
  | 0, _ => .error .exhausted
  | fuel + 1, tokens =>
      match current tokens with
      | .eof => .ok []
      | _ => do
          let (first, tokens) ← statement limits fuel 0 tokens
          let rest ← program limits fuel (skipNewlines tokens)
          pure (first ++ rest)

/-- A whole source that is one expression. -/
def wholeExpression (limits : ParseLimits) (fuel : Nat) (tokens : List Lexeme) :
    Except Halt Expr := do
  let (e, tokens) ← expression limits fuel 0 tokens
  let tokens := skipNewlines tokens
  if current tokens = .eof then pure e else .error (unexpected tokens)

/-- The number of calls that reading some tokens may take. -/
def budget (tokens : List Lexeme) : Nat :=
  16 * (tokens.length + 1)

/-- The outcome without the budget, which is never used up. -/
def settle {α : Type} : Except Halt α → Except ParseError α
  | .ok result => .ok result
  | .error (.refused error) => .error error
  | .error .exhausted => .error (.unexpectedEof 1)

/-- The tokens of a source that is not too long. -/
def tokens (limits : ParseLimits) (source : List Char) : Except ParseError (List Lexeme) :=
  let source := String.ofList source
  if limits.maxLength < source.utf8ByteSize then
    .error (.tooLong source.utf8ByteSize limits.maxLength)
  else Lexer.lexemes source

end Parser

/-- The program that a source denotes, without the indentation that its lines share. -/
def Program.parse (limits : ParseLimits) (source : String) : Except ParseError Program := do
  let tokens ← Parser.tokens limits (Text.dedent source.toList)
  Parser.settle (Parser.program limits (Parser.budget tokens) (Parser.skipNewlines tokens))

/-- The expression that a source denotes, without the blanks around it. -/
def Expr.parse (limits : ParseLimits) (source : String) : Except ParseError Expr := do
  let tokens ← Parser.tokens limits (Text.trim source.toList)
  Parser.settle (Parser.wholeExpression limits (Parser.budget tokens) tokens)

end SchemaGuard
