import SchemaGuard.Proofs.Source.Reading
import Mathlib.Data.List.Basic
import Mathlib.Logic.Relation

/-! # Scanning line by line

What a source says up to a line end is scanned alike whatever comes after the line end. A line
end outside of brackets closes the line, and a line without indentation closes all blocks, as
the end of the source does.

A step makes only a few kinds of changes to a state, so what each of them keeps still holds when a
source has been read.
-/

namespace SchemaGuard.Lexer

open Outcome SchemaGuard.Parser

/-! ## Tokens before a line end -/

section

variable {after : List Char}

theorem takeWhile_line {p : Char → Bool} (hend : p '\n' = false) (text : List Char) :
    (text ++ '\n' :: after).takeWhile p = text.takeWhile p := by
  induction text with
  | nil => simp [hend]
  | cons c rest ih => simp [List.takeWhile_cons, ih]

theorem dropWhile_line {p : Char → Bool} (hend : p '\n' = false) (text : List Char) :
    (text ++ '\n' :: after).dropWhile p = text.dropWhile p ++ '\n' :: after := by
  induction text with
  | nil => simp [hend]
  | cons c rest ih =>
      rw [List.cons_append, List.dropWhile_cons, List.dropWhile_cons, ih]
      split <;> rfl

theorem numeralText_line (isReal afterMark : Bool) (text : List Char) :
    numeralText isReal afterMark (text ++ '\n' :: after) =
      ((numeralText isReal afterMark text).1, (numeralText isReal afterMark text).2.1,
        (numeralText isReal afterMark text).2.2 ++ '\n' :: after) := by
  fun_induction numeralText isReal afterMark text with
  | case1 => simp [numeralText]
  | case2 isReal afterMark c rest hc _ _ _ hread ih =>
      rw [List.cons_append, numeralText, if_pos hc, ih, hread]
  | case3 isReal afterMark c rest hdigit hc ih =>
      rw [List.cons_append, numeralText, if_neg hdigit, if_pos hc, ih]
  | case4 isReal afterMark c rest hdigit hline hc _ _ _ hread ih =>
      rw [List.cons_append, numeralText, if_neg hdigit, if_neg hline, if_pos hc, ih, hread]
  | case5 isReal afterMark c rest hdigit hline hpoint hc _ _ _ hread ih =>
      rw [List.cons_append, numeralText, if_neg hdigit, if_neg hline, if_neg hpoint, if_pos hc, ih,
        hread]
  | case6 isReal afterMark c rest hdigit hline hpoint hc =>
      rw [List.cons_append, numeralText, if_neg hdigit, if_neg hline, if_neg hpoint, if_neg hc]

theorem readNumber_line {line : Nat} {text rest : List Char} {token : Token}
    (hread : readNumber line text = .ok (token, rest)) :
    readNumber line (text ++ '\n' :: after) = .ok (token, rest ++ '\n' :: after) := by
  unfold readNumber at hread ⊢
  rw [numeralText_line]
  dsimp only at hread ⊢
  split at hread
  next htoken =>
    cases hread
    rw [htoken]
  next => cases hread

/-- A string ends with its quote, whatever comes after it. -/
theorem stringBody_append {raw : Bool} {quote : Char} {escaped : Bool} {text body rest : List Char}
    (hbody : stringBody raw quote escaped text = .ok (body, rest)) (more : List Char) :
    stringBody raw quote escaped (text ++ more) = .ok (body, rest ++ more) := by
  fun_induction stringBody raw quote escaped text generalizing body rest with
  | case1 => cases hbody
  | case2 => cases hbody
  | case3 c after d hescape ih =>
      obtain ⟨⟨inner, rest⟩, hinner, hpair⟩ := map_eq_ok.mp hbody
      cases hpair
      rw [List.cons_append, stringBody, hescape]
      simp [ih hinner]
  | case4 c after hquote =>
      cases hbody
      rw [List.cons_append, stringBody, if_pos hquote]
  | case5 => cases hbody
  | case6 c after hquote hline hescape ih =>
      rw [List.cons_append, stringBody, if_neg hquote, if_neg hline, if_pos hescape]
      exact ih hbody
  | case7 c after hquote hline hescape ih =>
      obtain ⟨⟨inner, rest⟩, hinner, hpair⟩ := map_eq_ok.mp hbody
      cases hpair
      rw [List.cons_append, stringBody, if_neg hquote, if_neg hline, if_neg hescape, ih hinner]
      rfl

theorem readString_append {line : Nat} {raw : Bool} {quote : Char} {text rest : List Char}
    {token : Token} (hread : readString line raw quote text = .ok (token, rest))
    (more : List Char) :
    readString line raw quote (text ++ more) = .ok (token, rest ++ more) := by
  unfold readString at hread ⊢
  split at hread
  next hbody =>
    cases hread
    rw [stringBody_append hbody]
  next => cases hread

theorem readWord_line {line : Nat} {text rest : List Char} {token : Token}
    (hread : readWord line text = .ok (token, rest)) :
    readWord line (text ++ '\n' :: after) = .ok (token, rest ++ '\n' :: after) := by
  have hend : isNameChar '\n' = false := by decide
  unfold readWord at hread ⊢
  rw [takeWhile_line hend, dropWhile_line hend]
  dsimp only at hread ⊢
  cases hrest : text.dropWhile isNameChar with
  | nil =>
      rw [hrest] at hread
      cases hread
      simp
  | cons c rest =>
      rw [hrest] at hread
      rw [List.cons_append]
      dsimp only at hread ⊢
      split at hread
      next hquote =>
        rw [if_pos hquote]
        exact readString_append hread _
      next hplain =>
        rw [if_neg hplain]
        split at hread
        next hquote =>
          rw [if_pos hquote]
          exact readString_append hread _
        next hplain =>
          cases hread
          rw [if_neg hplain]
          rfl

theorem readPath_line {line : Nat} {text rest : List Char} {token : Token}
    (hread : readPath line text = .ok (token, rest)) :
    readPath line (text ++ '\n' :: after) = .ok (token, rest ++ '\n' :: after) := by
  have hend : (fun c : Char => c != '\x7d' && c != '\n') '\n' = false := by decide
  have htake : (text ++ '\n' :: after).takeWhile (fun c => c != '\x7d' && c != '\n') =
      text.takeWhile (fun c => c != '\x7d' && c != '\n') := takeWhile_line hend text
  have hdrop : (text ++ '\n' :: after).dropWhile (fun c => c != '\x7d' && c != '\n') =
      text.dropWhile (fun c => c != '\x7d' && c != '\n') ++ '\n' :: after :=
    dropWhile_line hend text
  unfold readPath at hread ⊢
  simp only [htake, hdrop]
  dsimp only at hread
  split at hread
  next hclose =>
    rw [hclose, List.cons_append]
    split at hread
    next hparts =>
      cases hread
      exact if_pos hparts
    next => cases hread
  next => cases hread

theorem extended_line {next : Char} (hnext : next ≠ '\n') (long short : Token)
    (text : List Char) :
    extended next long short (text ++ '\n' :: after) =
      ((extended next long short text).1, (extended next long short text).2 ++ '\n' :: after) := by
  cases text with
  | nil => simp [extended, hnext.symm]
  | cons c rest =>
      rw [List.cons_append, extended, extended]
      split <;> rfl

theorem sign?_line {c : Char} {text rest : List Char} {token : Token}
    (hsign : sign? c text = some (token, rest)) :
    sign? c (text ++ '\n' :: after) = some (token, rest ++ '\n' :: after) := by
  unfold sign? at hsign
  split at hsign <;> first
    | (cases hsign; rfl)
    | (rw [sign?, extended_line (by decide)]; simp_all)
    | cases hsign
    | (split at hsign <;> cases hsign; rfl)

theorem readToken_line {line : Nat} {c : Char} {text rest : List Char} {token : Token}
    (hread : readToken line c text = .ok (token, rest)) :
    readToken line c (text ++ '\n' :: after) = .ok (token, rest ++ '\n' :: after) := by
  unfold readToken at hread ⊢
  split at hread
  next hc =>
    rw [if_pos hc]
    exact readString_append hread _
  next hc =>
    rw [if_neg hc]
    split at hread
    next hc =>
      rw [if_pos hc]
      exact readNumber_line hread
    next hc =>
      rw [if_neg hc]
      split at hread
      next hc =>
        rw [if_pos hc]
        exact readPath_line hread
      next hc =>
        rw [if_neg hc]
        split at hread
        next hc =>
          rw [if_pos hc]
          exact readWord_line hread
        next hc =>
          rw [if_neg hc]
          split at hread
          next hsign =>
            cases hread
            rw [sign?_line hsign]
          next => cases hread

/-! ## Lines in step -/

theorem joinLine_line {state next : State} {text rest : List Char}
    (hjoin : joinLine state text = .ok (next, rest)) :
    joinLine state (text ++ '\n' :: after) = .ok (next, rest ++ '\n' :: after) := by
  unfold joinLine at hjoin
  dsimp only at hjoin
  split at hjoin
  next heq =>
    cases hjoin
    -- A carriage return may stand between the backslash and the line end.
    split at heq
    next inner =>
      subst heq
      rfl
    next inner hreturn =>
      subst heq
      rfl
  next => cases hjoin

theorem takeOne_line {state next : State} {c : Char} {text rest : List Char}
    (htake : takeOne state c text = .ok (next, rest)) :
    takeOne state c (text ++ '\n' :: after) = .ok (next, rest ++ '\n' :: after) := by
  unfold takeOne at htake ⊢
  split at htake
  next hc =>
    cases htake
    rw [if_pos hc]
  next hc =>
    rw [if_neg hc]
    split at htake
    next hc =>
      cases htake
      rw [if_pos hc]
    next hc =>
      rw [if_neg hc]
      split at htake
      next hc =>
        cases htake
        rw [if_pos hc, dropWhile_line (by decide)]
      next hc =>
        rw [if_neg hc]
        split at htake
        next hc =>
          rw [if_pos hc]
          exact joinLine_line htake
        next hc =>
          obtain ⟨⟨token, rest⟩, hread, hpair⟩ := map_eq_ok.mp htake
          cases hpair
          rw [if_neg hc, readToken_line hread]
          rfl

theorem indentation_line (text : List Char) :
    indentation (text ++ '\n' :: after) =
      ((indentation text).1, (indentation text).2 ++ '\n' :: after) := by
  induction text with
  | nil => rfl
  | cons c rest ih =>
      simp only [List.cons_append, indentation, ih]
      split
      · rfl
      · split <;> rfl

theorem isBlankOrComment_line (text : List Char) :
    isBlankOrComment (text ++ '\n' :: after) = isBlankOrComment text := by
  cases text <;> rfl

theorem startLine_line {state next : State} {text rest : List Char}
    (hstart : startLine state text = .ok (next, rest)) :
    startLine state (text ++ '\n' :: after) = .ok (next, rest ++ '\n' :: after) := by
  unfold startLine at hstart ⊢
  rw [indentation_line]
  dsimp only at hstart ⊢
  rw [isBlankOrComment_line]
  split at hstart
  next hblank =>
    cases hstart
    rw [if_pos hblank]
  next hblank =>
    obtain ⟨inner, hindent, hpair⟩ := map_eq_ok.mp hstart
    cases hpair
    rw [if_neg hblank, hindent]
    rfl

/-- The layout of the line that begins, if one does. -/
def settleLine (state : State) (text : List Char) : Except ParseError (State × List Char) :=
  if state.atLineStart ∧ state.brackets = 0 then startLine state text
  else .ok ({ state with atLineStart := false }, text)

/-- Takes one item off the text, if there is one. -/
def takeNext : State × List Char → Except ParseError (State × List Char)
  | (state, []) => .ok (state, [])
  | (state, c :: rest) => takeOne state c rest

theorem step_eq (state : State) (text : List Char) :
    step state text = settleLine state text >>= takeNext := by
  unfold step settleLine
  split
  · refine bind_congr rfl fun pair _ => ?_
    obtain ⟨state, _ | ⟨c, rest⟩⟩ := pair <;> rfl
  · cases text <;> rfl

theorem settleLine_line {state next : State} {text rest : List Char}
    (hsettle : settleLine state text = .ok (next, rest)) :
    settleLine state (text ++ '\n' :: after) = .ok (next, rest ++ '\n' :: after) := by
  unfold settleLine at hsettle ⊢
  split at hsettle
  next hstart =>
    rw [if_pos hstart]
    exact startLine_line hsettle
  next hstart =>
    cases hsettle
    rw [if_neg hstart]

/-- A step that stays before the line end is the same step with more text; one that finds nothing
but indentation goes on to pass the line end. -/
theorem step_line {state next : State} {text rest : List Char}
    (hstep : step state text = .ok (next, rest)) :
    step state (text ++ '\n' :: after) = .ok (next, rest ++ '\n' :: after) ∨
      rest = [] ∧ step state (text ++ '\n' :: after) = .ok (next.nextLine, after) := by
  rw [step_eq] at hstep ⊢
  obtain ⟨⟨inner, left⟩, hsettle, htake⟩ := bind_eq_ok.mp hstep
  rw [settleLine_line hsettle, ok_bind]
  cases left with
  | nil =>
      cases htake
      exact .inr ⟨rfl, rfl⟩
  | cons c left => exact .inl (takeOne_line htake)

theorem scan_cons {state next : State} {c : Char} {text rest : List Char}
    (hstep : step state (c :: text) = .ok (next, rest)) :
    scan state (c :: text) = scan next rest := by
  rw [scan]
  split
  next heq =>
    rw [hstep] at heq
    cases heq
  next heq =>
    rw [hstep] at heq
    cases heq
    rfl

theorem scan_append_line {state next : State} {text rest : List Char}
    (hstep : step state (text ++ '\n' :: after) = .ok (next, rest)) :
    scan state (text ++ '\n' :: after) = scan next rest := by
  cases text with
  | nil => exact scan_cons hstep
  | cons c text => exact scan_cons hstep

/-- Outside of brackets it does not matter at a line end whether the line has begun. -/
theorem nextLine_settled {state : State} (hbrackets : state.brackets = 0) :
    ({ state with atLineStart := false } : State).nextLine = state.nextLine := by
  obtain ⟨line, brackets, indents, atLineStart, lexemes⟩ := state
  dsimp only at hbrackets
  subst hbrackets
  cases lexemes with
  | nil => rfl
  | cons last rest =>
      by_cases hlast : last.token = .newline
      · simp [State.nextLine, State.pushNewline, hlast]
      · simp [State.nextLine, State.pushNewline, State.push, hlast]

theorem step_newline (state : State) (hbrackets : state.brackets = 0) :
    step state ('\n' :: after) = .ok (state.nextLine, after) := by
  have hnext := nextLine_settled hbrackets
  rw [step_eq, settleLine]
  split
  · exact congrArg (fun next => Except.ok (next, after)) hnext
  · exact congrArg (fun next => Except.ok (next, after)) hnext

/-- A text that is scanned with no bracket left open is scanned alike before a line end, and what
comes after the line end is scanned from there. -/
theorem scan_line {state final : State} {text : List Char} (hscan : scan state text = .ok final)
    (hbrackets : final.brackets = 0) :
    scan state (text ++ '\n' :: after) = scan final.nextLine after := by
  fun_induction scan state text with
  | case1 state =>
      cases hscan
      exact scan_cons (step_newline _ hbrackets)
  | case2 => cases hscan
  | case3 state c rest next left hstep ih =>
      obtain hline | ⟨rfl, hline⟩ := step_line hstep
      · rw [scan_append_line hline]
        exact ih hscan
      · rw [scan_append_line hline]
        rw [scan] at hscan
        cases hscan
        rfl

end

/-! ## Tokens that lay out a source -/

theorem inline_of_readString {line : Nat} {raw : Bool} {quote : Char} {text rest : List Char}
    {token : Token} (hread : readString line raw quote text = .ok (token, rest)) :
    token.isInline = true := by
  unfold readString at hread
  split at hread <;> cases hread
  rfl

theorem inline_of_readNumber {line : Nat} {text rest : List Char} {token : Token}
    (hread : readNumber line text = .ok (token, rest)) : token.isInline = true := by
  unfold readNumber at hread
  dsimp only at hread
  split at hread
  next htoken =>
    cases hread
    split at htoken
    · obtain ⟨x, _, rfl⟩ := Option.map_eq_some_iff.mp htoken
      rfl
    · obtain ⟨n, _, rfl⟩ := Option.map_eq_some_iff.mp htoken
      rfl
  next => cases hread

theorem inline_ofWord (word : String) : (Token.ofWord word).isInline = true := by
  unfold Token.ofWord
  split <;> rfl

theorem inline_of_readWord {line : Nat} {text rest : List Char} {token : Token}
    (hread : readWord line text = .ok (token, rest)) : token.isInline = true := by
  unfold readWord at hread
  dsimp only at hread
  split at hread
  next =>
    cases hread
    exact inline_ofWord _
  next =>
    split at hread
    · exact inline_of_readString hread
    · split at hread
      · exact inline_of_readString hread
      · cases hread
        exact inline_ofWord _

theorem inline_of_readPath {line : Nat} {text rest : List Char} {token : Token}
    (hread : readPath line text = .ok (token, rest)) : token.isInline = true := by
  unfold readPath at hread
  dsimp only at hread
  split at hread
  next =>
    split at hread <;> cases hread
    rfl
  next => cases hread

theorem inline_of_extended {next : Char} {long short token : Token} {text rest : List Char}
    (hlong : long.isInline = true) (hshort : short.isInline = true)
    (hsign : some (extended next long short text) = some (token, rest)) :
    token.isInline = true := by
  unfold extended at hsign
  split at hsign
  · cases hsign
    exact hshort
  · split at hsign
    · cases hsign
      exact hlong
    · cases hsign
      exact hshort

theorem inline_of_sign? {c : Char} {text rest : List Char} {token : Token}
    (hsign : sign? c text = some (token, rest)) : token.isInline = true := by
  unfold sign? at hsign
  split at hsign <;> first
    | exact inline_of_extended rfl rfl hsign
    | (cases hsign; rfl)
    | cases hsign
    | (split at hsign <;> cases hsign; rfl)

/-- What is read from within a line is no line end and no mark of a block. -/
theorem inline_of_readToken {line : Nat} {c : Char} {text rest : List Char} {token : Token}
    (hread : readToken line c text = .ok (token, rest)) : token.isInline = true := by
  unfold readToken at hread
  split at hread
  · exact inline_of_readString hread
  · split at hread
    · exact inline_of_readNumber hread
    · split at hread
      · exact inline_of_readPath hread
      · split at hread
        · exact inline_of_readWord hread
        · split at hread
          next hsign =>
            cases hread
            exact inline_of_sign? hsign
          next => cases hread

namespace State

/-! ## What a step changes -/

/-- One change that reading makes to a state. -/
inductive Change : State → State → Prop
  | begun {state : State} : Change state { state with atLineStart := false }
  | indent {state : State} {width : Nat} (hwidth : state.indents.head?.getD 0 < width) :
      Change state ({ state with indents := width :: state.indents }.push .indent)
  | dedent {state : State} {top : Nat} {rest : List Nat} (hindents : state.indents = top :: rest)
      (htop : 0 < top) : Change state ({ state with indents := rest }.push .dedent)
  | lineEnd {state : State} : Change state state.nextLine
  | joined {state : State} : Change state { state with line := state.line + 1 }
  | token {state : State} {token : Token} (htoken : token.isInline = true) :
      Change state (state.accept token)

/-- What some changes make of a state. -/
def Becomes : State → State → Prop :=
  Relation.ReflTransGen Change

variable {ends : Ends} {state next : State} {widths : List Nat} {text rest : List Char}

theorem closeTo_becomes (width : Nat) (indents : List Nat) (state : State) :
    Becomes { state with indents := indents } (closeTo width indents state) := by
  induction indents generalizing state with
  | nil => exact .refl
  | cons top rest ih =>
      rw [closeTo]
      split
      next hwider => exact .head (.dedent rfl (Nat.zero_lt_of_lt hwider)) (ih (state.push .dedent))
      next => exact .refl

theorem indentTo_becomes {width : Nat} (hindent : state.indentTo width = .ok next) :
    Becomes state next := by
  unfold indentTo at hindent
  dsimp only at hindent
  split at hindent
  next hdeeper =>
    cases hindent
    exact .single (.indent hdeeper)
  next =>
    split at hindent
    next =>
      split at hindent <;> cases hindent
      exact closeTo_becomes width state.indents state
    next =>
      cases hindent
      exact .refl

theorem settleLine_becomes (hsettle : settleLine state text = .ok (next, rest)) :
    Becomes state next := by
  unfold settleLine at hsettle
  split at hsettle
  next =>
    unfold startLine at hsettle
    dsimp only at hsettle
    split at hsettle
    next =>
      cases hsettle
      exact .single .begun
    next =>
      obtain ⟨inner, hindent, hpair⟩ := map_eq_ok.mp hsettle
      cases hpair
      exact .head .begun (indentTo_becomes hindent)
  next =>
    cases hsettle
    exact .single .begun

theorem takeOne_becomes {c : Char} (htake : takeOne state c text = .ok (next, rest)) :
    Becomes state next := by
  unfold takeOne at htake
  split at htake
  · cases htake
    exact .single .lineEnd
  · split at htake
    · cases htake
      exact .refl
    · split at htake
      · cases htake
        exact .refl
      · split at htake
        · unfold joinLine at htake
          dsimp only at htake
          split at htake <;> cases htake
          exact .single .joined
        · obtain ⟨⟨token, left⟩, hread, hpair⟩ := map_eq_ok.mp htake
          cases hpair
          exact .single (.token (inline_of_readToken hread))

theorem takeNext_becomes {middle : State × List Char}
    (htake : takeNext middle = .ok (next, rest)) : Becomes middle.1 next := by
  obtain ⟨state, _ | ⟨c, left⟩⟩ := middle
  · cases htake
    exact .refl
  · exact takeOne_becomes htake

theorem step_becomes (hstep : step state text = .ok (next, rest)) : Becomes state next := by
  rw [step_eq] at hstep
  obtain ⟨⟨inner, left⟩, hsettle, htake⟩ := bind_eq_ok.mp hstep
  exact (settleLine_becomes hsettle).trans (takeNext_becomes htake)

theorem scan_becomes (hscan : scan state text = .ok next) : Becomes state next := by
  fun_induction Lexer.scan state text with
  | case1 =>
      cases hscan
      exact .refl
  | case2 => cases hscan
  | case3 _ _ _ _ _ hstep ih => exact (step_becomes hstep).trans (ih hscan)

/-- What every change keeps is kept by all of them. -/
theorem Becomes.keeps (property : State → Prop) (hbecomes : Becomes state next)
    (hchange : ∀ {state next}, Change state next → property state → property next)
    (hstate : property state) : property next := by
  induction hbecomes with
  | refl => exact hstate
  | tail _ hlast ih => exact hchange hlast ih

/-! ## Layout -/

/-- Whether the last token leaves a line open. -/
def midLine (state : State) : Bool :=
  match state.lexemes with
  | [] => false
  | last :: _ => last.token ≠ .newline

/-- The tokens of a state lead from a line that begins, with no bracket and no block open, to the
brackets of the state and to blocks of the given widths, which are indented. -/
def Leads (ends : Ends) (widths : List Nat) (state : State) : Prop :=
  (∀ width ∈ widths, 0 < width) ∧
    ∀ tokens tokens', InStep ends state.midLine state.brackets widths.length tokens tokens' →
      InStep ends false 0 0 (state.lexemes.reverse ++ tokens) (state.lexemes.reverse ++ tokens')

/-- A state whose tokens lead to the blocks that are open, inside of one without indentation. -/
def LaidOut (ends : Ends) (state : State) : Prop :=
  ∃ widths, state.indents = widths ++ [0] ∧ state.Leads ends widths

theorem laidOut_start : LaidOut ends {} :=
  ⟨[], rfl, by simp, fun _ _ htokens => htokens⟩

theorem accept_eq (state : State) (token : Token) :
    state.accept token =
      { state.push token with brackets := token.bracketsAfter state.brackets } := by
  cases token <;> rfl

/-- One more token leads on when it is in step with itself. -/
theorem leads_push {token : Token} {widths' : List Nat} (hleads : state.Leads ends widths)
    (hwidths : ∀ width ∈ widths', 0 < width) (brackets : Nat)
    (hpush : ∀ tokens tokens',
      InStep ends (decide (token ≠ .newline)) brackets widths'.length tokens tokens' →
        InStep ends state.midLine state.brackets widths.length (⟨token, state.line⟩ :: tokens)
          (⟨token, state.line⟩ :: tokens')) :
    ({ state.push token with brackets := brackets } : State).Leads ends widths' := by
  refine ⟨hwidths, fun tokens tokens' htokens => ?_⟩
  have hlead := hleads.2 _ _ (hpush tokens tokens' htokens)
  simpa [push] using hlead

theorem LaidOut.accept {token : Token} (hstate : state.LaidOut ends)
    (htoken : token.isInline = true) : (state.accept token).LaidOut ends := by
  obtain ⟨widths, hindents, hleads⟩ := hstate
  have hline : decide (token ≠ .newline) = true := by
    rw [decide_eq_true_iff]
    rintro rfl
    cases htoken
  rw [accept_eq]
  refine ⟨widths, hindents, leads_push hleads hleads.1 _ fun tokens tokens' htokens => ?_⟩
  rw [hline] at htokens
  exact .inline htoken htokens

theorem leads_pushNewline (hleads : state.Leads ends widths) :
    state.pushNewline.Leads ends widths ∧ state.pushNewline.midLine = false := by
  unfold pushNewline
  split
  next hlexemes => exact ⟨hleads, by simp [midLine, hlexemes]⟩
  next last rest hlexemes =>
    split
    next hlast => exact ⟨hleads, by simp [midLine, hlexemes, hlast]⟩
    next => exact ⟨leads_push hleads hleads.1 _ fun _ _ htokens => .newline htokens, rfl⟩

/-- A line end changes nothing but the tokens. -/
theorem pushNewline_eq (state : State) :
    state.pushNewline = { state with lexemes := state.pushNewline.lexemes } := by
  unfold pushNewline
  split
  · rfl
  · split <;> rfl

theorem LaidOut.nextLine (hstate : state.LaidOut ends) : state.nextLine.LaidOut ends := by
  obtain ⟨widths, hindents, hleads⟩ := hstate
  unfold State.nextLine
  split
  · refine ⟨widths, ?_, (leads_pushNewline hleads).1⟩
    have hpush := congrArg State.indents (pushNewline_eq state)
    exact hpush.trans hindents
  · exact ⟨widths, hindents, hleads⟩

theorem leads_dedent {width : Nat} (hleads : state.Leads ends (width :: widths)) :
    (state.push .dedent).Leads ends widths :=
  leads_push hleads (fun inner hinner => hleads.1 inner (List.mem_cons_of_mem _ hinner)) _
    fun _ _ htokens => .dedent htokens.anywhere

theorem LaidOut.change (hchange : Change state next) (hstate : state.LaidOut ends) :
    next.LaidOut ends := by
  cases hchange with
  | begun | joined => exact hstate
  | indent hwidth =>
      obtain ⟨widths, hindents, hleads⟩ := hstate
      -- The new width is larger than the last one, so it is not zero.
      have hwidths : ∀ inner ∈ _ :: widths, 0 < inner :=
        List.forall_mem_cons.mpr ⟨Nat.zero_lt_of_lt hwidth, hleads.1⟩
      exact ⟨_, congrArg _ hindents, leads_push hleads hwidths _ fun _ _ htokens =>
        .indent htokens.anywhere⟩
  | dedent hindents htop =>
      obtain ⟨widths, hindents', hleads⟩ := hstate
      rw [hindents] at hindents'
      cases widths with
      | nil =>
          cases hindents'
          cases htop
      | cons width widths =>
          cases hindents'
          exact ⟨widths, rfl, leads_dedent hleads⟩
  | lineEnd => exact hstate.nextLine
  | token htoken => exact hstate.accept htoken

theorem LaidOut.scan (hstate : state.LaidOut ends) (hscan : scan state text = .ok next) :
    next.LaidOut ends :=
  (scan_becomes hscan).keeps (LaidOut ends) LaidOut.change hstate

/-! ## The end of all blocks -/

/-- The marks that close some blocks. -/
def dedents (count line : Nat) : List Lexeme :=
  List.replicate count ⟨.dedent, line⟩

theorem dedents_succ (count line : Nat) (rest : List Lexeme) :
    dedents (count + 1) line ++ rest = dedents count line ++ ⟨.dedent, line⟩ :: rest := by
  rw [dedents, List.replicate_succ', List.append_assoc]
  rfl

theorem dedents_inStep {brackets line line' : Nat} {tokens tokens' : List Lexeme}
    (htokens : InStep ends false brackets 0 tokens tokens') (count : Nat) :
    InStep ends false brackets count (dedents count line ++ tokens)
      (dedents count line' ++ tokens') := by
  induction count with
  | zero => exact htokens
  | succ count ih => exact .dedent ih

theorem closeAll_lexemes (widths : List Nat) (state : State) :
    (closeAll (widths ++ [0]) state).lexemes =
      dedents widths.length state.line ++ state.lexemes := by
  induction widths generalizing state with
  | nil => rfl
  | cons width rest ih =>
      have hclose : closeAll (width :: rest ++ [0]) state =
          closeAll (rest ++ [0]) (state.push .dedent) := by
        cases rest <;> rfl
      rw [hclose, ih, List.length_cons, dedents_succ]
      rfl

theorem closeAll_line (indents : List Nat) (state : State) :
    (closeAll indents state).line = state.line := by
  fun_induction closeAll indents state with
  | case1 | case2 => rfl
  | case3 => assumption

theorem closeTo_zero (hwidths : ∀ width ∈ widths, 0 < width) (state : State) :
    closeTo 0 (widths ++ [0]) state = { state with
      indents := [0]
      lexemes := dedents widths.length state.line ++ state.lexemes } := by
  induction widths generalizing state with
  | nil => rfl
  | cons width rest ih =>
      obtain ⟨hwidth, hrest⟩ := List.forall_mem_cons.mp hwidths
      rw [List.cons_append, closeTo, if_pos hwidth, ih hrest, List.length_cons, dedents_succ]
      rfl

theorem indentTo_zero (hindents : state.indents = widths ++ [0])
    (hwidths : ∀ width ∈ widths, 0 < width) :
    state.indentTo 0 = .ok { state with
      indents := [0]
      lexemes := dedents widths.length state.line ++ state.lexemes } := by
  unfold State.indentTo
  rw [hindents, closeTo_zero hwidths]
  cases widths with
  | nil =>
      obtain ⟨line, brackets, indents, atLineStart, lexemes⟩ := state
      dsimp only at hindents
      subst hindents
      rfl
  | cons width rest =>
      have hwidth := hwidths width List.mem_cons_self
      simp [hwidth]

/-- The end of a source closes what is open as a line without indentation does. -/
theorem finish_inStep {final : State} (hindents : final.indents = widths ++ [0])
    (hleads : final.Leads ends widths) (hbrackets : ends.brackets = final.brackets)
    (hfirst : ends.first = [⟨.eof, final.line⟩]) (line : Nat) :
    InStep ends false 0 0 final.finish
      (final.pushNewline.lexemes.reverse ++ (dedents widths.length line ++ ends.second)) := by
  obtain ⟨⟨_, hlead⟩, hline⟩ := leads_pushNewline hleads
  have hindents' := congrArg State.indents (pushNewline_eq final)
  have hbrackets' := congrArg State.brackets (pushNewline_eq final)
  have hline' := congrArg State.line (pushNewline_eq final)
  dsimp only at hindents' hbrackets' hline'
  -- Both ways the open line is ended first, and then one mark is left for each open block.
  have hfinish : final.finish =
      final.pushNewline.lexemes.reverse ++ (dedents widths.length final.line ++ ends.first) := by
    unfold finish
    dsimp only
    rw [hindents', hindents, push, List.reverse_cons, closeAll_lexemes, closeAll_line, hline',
      hfirst, dedents, List.reverse_append, List.reverse_replicate, List.append_assoc]
  rw [hfinish]
  refine hlead _ _ ?_
  rw [hline, hbrackets', ← hbrackets]
  exact dedents_inStep .done widths.length

end State

/-! ## Sources that follow one another -/

theorem scan_congr {state state' : State} {c : Char} {rest : List Char}
    (hstep : step state (c :: rest) = step state' (c :: rest)) :
    scan state (c :: rest) = scan state' (c :: rest) := by
  cases hnext : step state (c :: rest) with
  | error failure =>
      have hnext' := hstep ▸ hnext
      rw [scan, scan]
      split <;> split <;> simp_all
  | ok pair =>
      obtain ⟨next, left⟩ := pair
      rw [scan_cons hnext, scan_cons (hstep ▸ hnext)]

/-- Whether a text begins with a line that has no indentation and is not left out. -/
def beginsLine : List Char → Bool
  | [] => false
  | c :: _ => c ∉ [' ', '\t', '\n', '\r', '#']

theorem indentation_beginsLine {text : List Char} (htext : beginsLine text = true) :
    indentation text = (0, text) ∧ isBlankOrComment text = false := by
  obtain _ | ⟨c, rest⟩ := text
  · cases htext
  simp only [beginsLine, List.mem_cons, not_or, decide_eq_true_eq] at htext
  obtain ⟨hspace, htab, hline, hreturn, hcomment, _⟩ := htext
  refine ⟨?_, by simp [isBlankOrComment, hline, hreturn, hcomment]⟩
  rw [indentation, if_neg hspace, if_neg htab]

theorem settleLine_closed {state : State} {c : Char} {rest : List Char}
    (hc : beginsLine (c :: rest) = true) (hstart : state.atLineStart = true)
    (hbrackets : state.brackets = 0) (widths : List Nat)
    (hindents : state.indents = widths ++ [0]) (hwidths : ∀ width ∈ widths, 0 < width) :
    settleLine state (c :: rest) = .ok
      (⟨state.line, 0, [0], false, State.dedents widths.length state.line ++ state.lexemes⟩,
        c :: rest) := by
  obtain ⟨hindentation, hblank⟩ := indentation_beginsLine hc
  have hindent : ({ state with atLineStart := false } : State).indentTo 0 = .ok _ :=
    State.indentTo_zero hindents hwidths
  rw [settleLine, if_pos ⟨hstart, hbrackets⟩, startLine, hindentation]
  dsimp only
  rw [hblank, hindent]
  simp [hbrackets]

/-- A line without indentation closes all blocks before its first token is read. -/
theorem scan_closed {state : State} {text : List Char} (htext : beginsLine text = true)
    (hstart : state.atLineStart = true) (hbrackets : state.brackets = 0) (widths : List Nat)
    (hindents : state.indents = widths ++ [0]) (hwidths : ∀ width ∈ widths, 0 < width) :
    scan state text = scan
      ⟨state.line, 0, [0], true, State.dedents widths.length state.line ++ state.lexemes⟩
      text := by
  obtain _ | ⟨c, rest⟩ := text
  · cases htext
  refine scan_congr ?_
  rw [step_eq, step_eq, settleLine_closed htext hstart hbrackets widths hindents hwidths,
    settleLine_closed htext rfl rfl [] rfl (by simp)]
  rfl

/-- A source and a line without indentation after it: the line is scanned behind the tokens of the
source, which are those of the source by itself. -/
theorem scan_followed {text : List Char} {final : State} (hscan : scan {} text = .ok final)
    {ends : Ends} (hbrackets : final.brackets = 0) (hends : ends.brackets = 0)
    (hfirst : ends.first = [⟨.eof, final.line⟩]) {following : List Char}
    (hfollowing : beginsLine following = true) :
    ∃ lexemes, scan {} (text ++ '\n' :: following) =
        scan ⟨final.line + 1, 0, [0], true, lexemes⟩ following ∧
      InStep ends false 0 0 final.finish (lexemes.reverse ++ ends.second) := by
  have hstart : State.LaidOut ends {} := State.laidOut_start
  obtain ⟨widths, hindents, hleads⟩ := hstart.scan hscan
  refine ⟨State.dedents widths.length (final.line + 1) ++ final.pushNewline.lexemes, ?_, ?_⟩
  · -- The line end after the source is the only one that the scanner sees in addition.
    have hnext : final.nextLine =
        { final with
          lexemes := final.pushNewline.lexemes, atLineStart := true, line := final.line + 1 } := by
      unfold State.nextLine
      rw [if_pos hbrackets, State.pushNewline_eq]
    rw [scan_line hscan hbrackets, hnext]
    refine scan_closed hfollowing ?_ ?_ widths ?_ hleads.1
    · rfl
    · exact hbrackets
    · exact hindents
  · have hsecond := State.finish_inStep hindents hleads (hends.trans hbrackets.symm) hfirst
      (final.line + 1)
    simpa [State.dedents, List.reverse_append] using hsecond

end SchemaGuard.Lexer
