import SchemaGuard.Expr.ParseError
import SchemaGuard.Unicode.Character
import SchemaGuard.Text.Search

/-! # Reading tokens

A source is read from left to right into words, signs and layout tokens. Line ends count
only outside of brackets, where the indentation of the next line opens and closes blocks;
blank lines and lines that hold only a comment never do. Every step takes at least one
character, so the whole source is read.
-/

namespace SchemaGuard.Lexer

/-- Whether a character may begin a name. -/
def isNameStart (c : Char) : Bool :=
  Unicode.isAlphabetic c || c == '_'

/-- Whether a character may continue a name. -/
def isNameChar (c : Char) : Bool :=
  Unicode.isAlphanumeric c || c == '_'

/-- Whether a text is a name. -/
def isName : List Char → Bool
  | [] => false
  | c :: rest => isNameStart c && (c :: rest).all isNameChar

/-- The characters of a number, whether it has a point or an exponent, and the rest. Underscores
between digits are dropped, a second point ends the number, and a sign belongs to it only directly
after the mark of an exponent, which the second argument tells. -/
def numeralText : Bool → Bool → List Char → List Char × Bool × List Char
  | isReal, _, [] => ([], isReal, [])
  | isReal, afterMark, c :: rest =>
      if c.isDigit || (afterMark && (c == '+' || c == '-')) then
        let (text, isReal, rest) := numeralText isReal false rest
        (c :: text, isReal, rest)
      else if c == '_' then numeralText isReal false rest
      else if c == '.' && !isReal then
        let (text, isReal, rest) := numeralText true false rest
        (c :: text, isReal, rest)
      else if c == 'e' || c == 'E' then
        let (text, isReal, rest) := numeralText true true rest
        (c :: text, isReal, rest)
      else ([], isReal, c :: rest)

/-- A number at the start of a text. -/
def readNumber (line : Nat) (text : List Char) : Except ParseError (Token × List Char) :=
  let (digits, isReal, rest) := numeralText false false text
  let token? : Option Token :=
    if isReal then (Numeral.real? digits).map .float
    else ((Numeral.integer? digits).bind Int64Range.check?).map .int
  match token? with
  | some token => .ok (token, rest)
  | none => .error (.invalidNumber (String.ofList digits) line)

/-- The character that an escape sequence denotes. -/
def unescape? : Char → Option Char
  | 'n' => some '\n'
  | 'r' => some '\r'
  | 't' => some '\t'
  | '0' => some '\x00'
  | '\\' => some '\\'
  | '"' => some '"'
  | '\'' => some '\''
  | _ => none

/-- The characters of a string up to its closing quote, and the rest after it. A raw string has no
escape sequences; the third argument tells whether a backslash comes before the text. -/
def stringBody (raw : Bool) (quote : Char) :
    Bool → List Char → Except StringFault (List Char × List Char)
  | _, [] => .error .unterminated
  | true, c :: rest =>
      match unescape? c with
      | none => .error (.invalidEscape c)
      | some d => (stringBody raw quote false rest).map (fun (body, rest) => (d :: body, rest))
  | false, c :: rest =>
      if c == quote then .ok ([], rest)
      else if c == '\n' then .error .unterminated
      else if c == '\\' && !raw then stringBody raw quote true rest
      else (stringBody raw quote false rest).map (fun (body, rest) => (c :: body, rest))

/-- A string whose opening quote has been taken. -/
def readString (line : Nat) (raw : Bool) (quote : Char) (text : List Char) :
    Except ParseError (Token × List Char) :=
  match stringBody raw quote false text with
  | .ok (body, rest) => .ok (.str (String.ofList body), rest)
  | .error fault => .error (.invalidString line fault)

/-- A word at the start of a text. The letters `r` and `f` before a quote belong to a string. -/
def readWord (line : Nat) (text : List Char) : Except ParseError (Token × List Char) :=
  let word := text.takeWhile isNameChar
  let token := Token.ofWord (String.ofList word)
  match text.dropWhile isNameChar with
  | [] => .ok (token, [])
  | c :: rest =>
      if (c = '"' ∨ c = '\'') ∧ (word = ['f'] ∨ word = ['F']) then
        readString line false c rest
      else if (c = '"' ∨ c = '\'') ∧ (word = ['r'] ∨ word = ['R']) then
        readString line true c rest
      else .ok (token, c :: rest)

/-- A path whose opening brace has been taken: names joined by dots, up to the closing brace on the
same line. -/
def readPath (line : Nat) (text : List Char) : Except ParseError (Token × List Char) :=
  let inside (c : Char) : Bool := c != '\x7d' && c != '\n'
  let body := text.takeWhile inside
  match text.dropWhile inside with
  | '\x7d' :: rest =>
      let parts := Text.splitOn ['.'] body
      if parts.all isName then .ok (.path (parts.map String.ofList), rest)
      else .error (.invalidVariable (String.ofList body) line)
  | _ => .error (.missingDelimiter '\x7d' line)

/-- A sign, or a longer one if a given character follows. -/
def extended (next : Char) (long short : Token) : List Char → Token × List Char
  | [] => (short, [])
  | c :: rest => if c = next then (long, rest) else (short, c :: rest)

/-- The sign that begins with a character, with the rest after it. -/
def sign? (c : Char) (rest : List Char) : Option (Token × List Char) :=
  match c with
  | '+' => some (.plus, rest)
  | '-' => some (.minus, rest)
  | '*' => some (.star, rest)
  | '%' => some (.percent, rest)
  | ',' => some (.comma, rest)
  | ':' => some (.colon, rest)
  | ';' => some (.semicolon, rest)
  | '.' => some (.dot, rest)
  | '(' => some (.leftParen, rest)
  | '[' => some (.leftBracket, rest)
  | ')' => some (.rightParen, rest)
  | ']' => some (.rightBracket, rest)
  | '/' => some (extended '/' .doubleSlash .slash rest)
  | '=' => some (extended '=' .equal .assign rest)
  | '!' => some (extended '=' .notEqual .not rest)
  | '<' => some (extended '=' .lessEqual .less rest)
  | '>' => some (extended '=' .greaterEqual .greater rest)
  | '&' => match rest with
      | '&' :: rest => some (.and, rest)
      | _ => none
  | '|' => match rest with
      | '|' :: rest => some (.or, rest)
      | _ => none
  | _ => none

/-- The token that begins with a character, with the rest after it. -/
def readToken (line : Nat) (c : Char) (rest : List Char) : Except ParseError (Token × List Char) :=
  if c = '"' ∨ c = '\'' then readString line false c rest
  else if c.isDigit then readNumber line (c :: rest)
  else if c = '\x7b' then readPath line rest
  else if isNameStart c then readWord line (c :: rest)
  else match sign? c rest with
    | some result => .ok result
    | none => .error (.unexpectedChar c line)

/-- What is known between two steps: the line, the number of open brackets, the widths of the open
blocks from the inside out, whether a line begins, and the tokens read, last first. -/
structure State where
  line : Nat := 1
  brackets : Nat := 0
  indents : List Nat := [0]
  atLineStart : Bool := true
  lexemes : List Lexeme := []

namespace State

/-- Adds a token on the line at hand. -/
def push (state : State) (token : Token) : State :=
  { state with lexemes := ⟨token, state.line⟩ :: state.lexemes }

/-- Adds a line end unless nothing, or only a line end, comes before it. -/
def pushNewline (state : State) : State :=
  match state.lexemes with
  | [] => state
  | last :: _ => if last.token = .newline then state else state.push .newline

/-- Passes a line end. -/
def nextLine (state : State) : State :=
  if state.brackets = 0 then
    let state := state.pushNewline
    { state with atLineStart := true, line := state.line + 1 }
  else
    { state with line := state.line + 1 }

/-- Adds a token and keeps count of the open brackets. -/
def accept (state : State) (token : Token) : State :=
  let state := state.push token
  match token with
  | .leftParen | .leftBracket => { state with brackets := state.brackets + 1 }
  | .rightParen | .rightBracket => { state with brackets := state.brackets - 1 }
  | _ => state

/-- Closes the blocks that are wider than a line. -/
def closeTo (width : Nat) : List Nat → State → State
  | [], state => { state with indents := [] }
  | top :: rest, state =>
      if width < top then closeTo width rest (state.push .dedent)
      else { state with indents := top :: rest }

/-- Opens or closes blocks according to the width of a line's indentation. -/
def indentTo (width : Nat) (state : State) : Except ParseError State :=
  let current := state.indents.head?.getD 0
  if current < width then
    .ok ({ state with indents := width :: state.indents }.push .indent)
  else if width < current then
    let state := closeTo width state.indents state
    if state.indents.head?.getD 0 = width then .ok state
    else .error (.inconsistentIndent state.line)
  else .ok state

/-- Closes all blocks at the end of the source. -/
def closeAll : List Nat → State → State
  | [], state => state
  | [_], state => state
  | _ :: rest, state => closeAll rest (state.push .dedent)

/-- The tokens of a source that has been read to its end. -/
def finish (state : State) : List Lexeme :=
  let state := state.pushNewline
  ((closeAll state.indents state).push .eof).lexemes.reverse

end State

/-- The width of the spaces and tabs at the start of a line, and what follows them; a tab counts as
four spaces. -/
def indentation : List Char → Nat × List Char
  | [] => (0, [])
  | c :: rest =>
      if c = ' ' then
        let (width, rest) := indentation rest
        (width + 1, rest)
      else if c = '\t' then
        let (width, rest) := indentation rest
        (width + 4, rest)
      else (0, c :: rest)

/-- Whether what follows the indentation leaves the block structure alone. -/
def isBlankOrComment : List Char → Bool
  | [] => true
  | c :: _ => c == '\n' || c == '\r' || c == '#'

/-- Handles the layout at the start of a line outside of brackets. -/
def startLine (state : State) (text : List Char) : Except ParseError (State × List Char) :=
  let (width, rest) := indentation text
  let state := { state with atLineStart := false }
  if isBlankOrComment rest then .ok (state, rest)
  else (state.indentTo width).map (fun state => (state, rest))

/-- What follows a backslash has to be a line end, which is passed over. -/
def joinLine (state : State) (rest : List Char) : Except ParseError (State × List Char) :=
  let rest := match rest with
    | '\r' :: after => after
    | rest => rest
  match rest with
  | '\n' :: after => .ok ({ state with line := state.line + 1 }, after)
  | _ => .error (.unexpectedChar '\\' state.line)

/-- Takes a blank, a comment, a line end or a token off the text. -/
def takeOne (state : State) (c : Char) (rest : List Char) :
    Except ParseError (State × List Char) :=
  if c = '\n' then .ok (state.nextLine, rest)
  else if c = ' ' ∨ c = '\t' ∨ c = '\r' then .ok (state, rest)
  else if c = '#' then .ok (state, rest.dropWhile (· != '\n'))
  else if c = '\\' then joinLine state rest
  else (readToken state.line c rest).map (fun (token, rest) => (state.accept token, rest))

/-- One step: the layout of a line that begins, then one item. -/
def step (state : State) (text : List Char) : Except ParseError (State × List Char) := do
  let (state, text) ←
    if state.atLineStart ∧ state.brackets = 0 then startLine state text
    else pure ({ state with atLineStart := false }, text)
  match text with
  | [] => pure (state, [])
  | c :: rest => takeOne state c rest

/-! ## What is left of a text -/

theorem numeralText_suffix (isReal afterMark : Bool) (text : List Char) :
    (numeralText isReal afterMark text).2.2 <:+ text := by
  fun_induction numeralText isReal afterMark text with
  | case1 => exact List.suffix_rfl
  | case2 _ _ c rest _ _ _ _ hread ih =>
      rw [hread] at ih
      exact ih.trans (List.suffix_cons c rest)
  | case3 _ _ c rest _ _ ih => exact ih.trans (List.suffix_cons c rest)
  | case4 _ _ c rest _ _ _ _ _ _ hread ih =>
      rw [hread] at ih
      exact ih.trans (List.suffix_cons c rest)
  | case5 _ _ c rest _ _ _ _ _ _ _ hread ih =>
      rw [hread] at ih
      exact ih.trans (List.suffix_cons c rest)
  | case6 => exact List.suffix_rfl

theorem readNumber_suffix {line : Nat} {c : Char} {text rest : List Char} {token : Token}
    (hc : c.isDigit = true) (h : readNumber line (c :: text) = .ok (token, rest)) :
    rest <:+ text := by
  have hdigits : (numeralText false false (c :: text)).2.2 <:+ text := by
    rw [numeralText.eq_def]
    simpa [hc] using numeralText_suffix false false text
  unfold readNumber at h
  dsimp only at h
  split at h <;> cases h
  exact hdigits

theorem stringBody_suffix {raw : Bool} {quote : Char} {escaped : Bool} {text body rest : List Char}
    (h : stringBody raw quote escaped text = .ok (body, rest)) : rest <:+ text := by
  fun_induction stringBody raw quote escaped text generalizing body rest with
  | case1 => cases h
  | case2 => cases h
  | case3 c after d _ ih =>
      cases hbody : stringBody raw quote false after with
      | error fault => simp [hbody, Except.map] at h
      | ok pair =>
          simp only [hbody, Except.map, Except.ok.injEq, Prod.mk.injEq] at h
          rw [← h.2]
          exact (ih hbody).trans (List.suffix_cons c after)
  | case4 c after =>
      cases h
      exact List.suffix_cons c after
  | case5 => cases h
  | case6 c after _ _ _ ih => exact (ih h).trans (List.suffix_cons c after)
  | case7 c after _ _ _ ih =>
      cases hbody : stringBody raw quote false after with
      | error fault => simp [hbody, Except.map] at h
      | ok pair =>
          simp only [hbody, Except.map, Except.ok.injEq, Prod.mk.injEq] at h
          rw [← h.2]
          exact (ih hbody).trans (List.suffix_cons c after)

theorem readString_suffix {line : Nat} {raw : Bool} {quote : Char} {text rest : List Char}
    {token : Token} (h : readString line raw quote text = .ok (token, rest)) :
    rest <:+ text := by
  unfold readString at h
  split at h
  next hbody =>
    cases h
    exact stringBody_suffix hbody
  next => cases h

theorem readWord_suffix {line : Nat} {c : Char} {text rest : List Char} {token : Token}
    (hc : isNameChar c = true) (h : readWord line (c :: text) = .ok (token, rest)) :
    rest <:+ text := by
  have hdrop := List.dropWhile_suffix isNameChar (l := text)
  unfold readWord at h
  simp only [List.dropWhile_cons, hc, if_true] at h
  split at h
  next =>
    cases h
    exact List.nil_suffix
  next d after heq =>
    rw [heq] at hdrop
    have hafter := (List.suffix_cons d after).trans hdrop
    split at h
    next => exact (readString_suffix h).trans hafter
    next =>
      split at h
      next => exact (readString_suffix h).trans hafter
      next =>
        cases h
        exact hdrop

theorem readPath_suffix {line : Nat} {text rest : List Char} {token : Token}
    (h : readPath line text = .ok (token, rest)) : rest <:+ text := by
  have hdrop := List.dropWhile_suffix (fun c => c != '\x7d' && c != '\n') (l := text)
  unfold readPath at h
  simp only at h
  split at h
  next after heq =>
    rw [heq] at hdrop
    split at h
    next =>
      cases h
      exact (List.suffix_cons _ _).trans hdrop
    next => cases h
  next => cases h

theorem extended_suffix (next : Char) (long short : Token) (text : List Char) :
    (extended next long short text).2 <:+ text := by
  unfold extended
  split
  next => exact List.suffix_rfl
  next c rest =>
    split
    next => exact List.suffix_cons c rest
    next => exact List.suffix_rfl

theorem sign?_suffix {c : Char} {text rest : List Char} {token : Token}
    (h : sign? c text = some (token, rest)) : rest <:+ text := by
  unfold sign? at h
  split at h <;> first
    | (cases h; exact List.suffix_rfl)
    | (rw [← show _ = rest from congrArg Prod.snd (Option.some.inj h)]
       exact extended_suffix _ _ _ text)
    | (split at h <;> cases h; exact List.suffix_cons _ _)
    | cases h

theorem isNameChar_of_isNameStart {c : Char} (h : isNameStart c = true) : isNameChar c = true := by
  simp only [isNameStart, isNameChar, Unicode.isAlphanumeric, Bool.or_eq_true] at *
  exact h.imp_left .inl

theorem readToken_suffix {line : Nat} {c : Char} {text rest : List Char} {token : Token}
    (h : readToken line c text = .ok (token, rest)) : rest <:+ text := by
  unfold readToken at h
  split at h
  next => exact readString_suffix h
  next =>
    split at h
    next hc => exact readNumber_suffix hc h
    next =>
      split at h
      next => exact readPath_suffix h
      next =>
        split at h
        next hc => exact readWord_suffix (isNameChar_of_isNameStart hc) h
        next =>
          split at h
          next hsign =>
            cases h
            exact sign?_suffix hsign
          next => cases h

theorem joinLine_suffix {state next : State} {text rest : List Char}
    (h : joinLine state text = .ok (next, rest)) : rest <:+ text := by
  unfold joinLine at h
  dsimp only at h
  split at h
  next heq =>
    cases h
    split at heq
    next =>
      subst heq
      exact (List.suffix_cons _ _).trans (List.suffix_cons _ _)
    next =>
      subst heq
      exact List.suffix_cons _ _
  next => cases h

theorem takeOne_suffix {state next : State} {c : Char} {text rest : List Char}
    (h : takeOne state c text = .ok (next, rest)) : rest <:+ text := by
  unfold takeOne at h
  split at h
  next =>
    cases h
    exact List.suffix_rfl
  next =>
    split at h
    next =>
      cases h
      exact List.suffix_rfl
    next =>
      split at h
      next =>
        cases h
        exact List.dropWhile_suffix _
      next =>
        split at h
        next => exact joinLine_suffix h
        next =>
          cases hread : readToken state.line c text with
          | error fault => simp [hread, Except.map] at h
          | ok pair =>
              simp only [hread, Except.map, Except.ok.injEq, Prod.mk.injEq] at h
              rw [← h.2]
              exact readToken_suffix hread

theorem indentation_suffix (text : List Char) : (indentation text).2 <:+ text := by
  induction text with
  | nil => exact List.suffix_rfl
  | cons c rest ih =>
      have htail := ih.trans (List.suffix_cons c rest)
      unfold indentation
      split
      next => exact htail
      next =>
        split
        next => exact htail
        next => exact List.suffix_rfl

theorem startLine_suffix {state next : State} {text rest : List Char}
    (h : startLine state text = .ok (next, rest)) : rest <:+ text := by
  have hsuffix := indentation_suffix text
  unfold startLine at h
  simp only at h
  split at h
  next =>
    cases h
    exact hsuffix
  next =>
    cases hindent : State.indentTo (indentation text).1 { state with atLineStart := false } with
    | error fault => simp [hindent, Except.map] at h
    | ok inner =>
        simp only [hindent, Except.map, Except.ok.injEq, Prod.mk.injEq] at h
        rw [← h.2]
        exact hsuffix

/-- A step takes at least one character and leaves an end of what follows it. -/
theorem step_suffix {state next : State} {c : Char} {text rest : List Char}
    (h : step state (c :: text) = .ok (next, rest)) : rest <:+ text := by
  have finish : ∀ {middle : State} {body : List Char}, body <:+ c :: text →
      (match body with
        | [] => (pure (middle, []) : Except ParseError (State × List Char))
        | d :: after => takeOne middle d after) = .ok (next, rest) → rest <:+ text := by
    intro middle body hbody hrest
    cases body with
    | nil =>
        cases hrest
        exact List.nil_suffix
    | cons d after =>
        have hafter : after <:+ text := by
          obtain heq | hsuffix := List.suffix_cons_iff.mp hbody
          · cases heq
            exact List.suffix_rfl
          · exact (List.suffix_cons d after).trans hsuffix
        exact (takeOne_suffix hrest).trans hafter
  unfold step at h
  split at h
  next =>
    cases hstart : startLine state (c :: text) with
    | error fault => simp [hstart, bind, Except.bind] at h
    | ok pair =>
        simp only [hstart, bind, Except.bind] at h
        exact finish (startLine_suffix hstart) h
  next =>
    simp only [pure, Except.pure, bind, Except.bind] at h
    exact finish List.suffix_rfl h

theorem step_length {state next : State} {c : Char} {text rest : List Char}
    (h : step state (c :: text) = .ok (next, rest)) : rest.length < (c :: text).length :=
  Nat.lt_succ_of_le (step_suffix h).length_le

/-! ## Scanning -/

/-- Steps until the text is used up. -/
def scan (state : State) (text : List Char) : Except ParseError State :=
  match text with
  | [] => .ok state
  | c :: rest =>
      match _h : step state (c :: rest) with
      | .error fault => .error fault
      | .ok (next, rest) => scan next rest
termination_by text.length
decreasing_by exact step_length _h

/-- The tokens of a source. -/
def lexemes (source : String) : Except ParseError (List Lexeme) :=
  (scan {} source.toList).map State.finish

end SchemaGuard.Lexer
