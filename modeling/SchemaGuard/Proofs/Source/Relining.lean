import SchemaGuard.Proofs.Source.Scanning

/-! # Scanning on other lines

The number of a line stands in errors and beside tokens, and nothing that is scanned depends on
it. So what is scanned from one line on is scanned from another line on to the same tokens.
-/

namespace SchemaGuard.Lexer

open Outcome

variable {line line' : Nat} {text : List Char}

/-! ## Tokens -/

theorem readString_relined {raw : Bool} {quote : Char} {read : Token × List Char}
    (hread : readString line raw quote text = .ok read) :
    readString line' raw quote text = .ok read := by
  unfold readString at hread ⊢
  split at hread
  next => exact hread
  next => cases hread

theorem readNumber_relined {read : Token × List Char}
    (hread : readNumber line text = .ok read) : readNumber line' text = .ok read := by
  unfold readNumber at hread ⊢
  dsimp only at hread ⊢
  split at hread
  next => exact hread
  next => cases hread

theorem readPath_relined {read : Token × List Char}
    (hread : readPath line text = .ok read) : readPath line' text = .ok read := by
  unfold readPath at hread ⊢
  dsimp only at hread ⊢
  split at hread
  next =>
    split at hread
    next hparts =>
      rw [if_pos hparts]
      exact hread
    next => cases hread
  next => cases hread

theorem readWord_relined {read : Token × List Char}
    (hread : readWord line text = .ok read) : readWord line' text = .ok read := by
  unfold readWord at hread ⊢
  dsimp only at hread ⊢
  cases hrest : text.dropWhile isNameChar with
  | nil =>
      rw [hrest] at hread
      exact hread
  | cons c rest =>
      rw [hrest] at hread
      dsimp only at hread ⊢
      split at hread
      next hquote =>
        rw [if_pos hquote]
        exact readString_relined hread
      next hplain =>
        rw [if_neg hplain]
        split at hread
        next hquote =>
          rw [if_pos hquote]
          exact readString_relined hread
        next hplain =>
          rw [if_neg hplain]
          exact hread

theorem readToken_relined {c : Char} {read : Token × List Char}
    (hread : readToken line c text = .ok read) : readToken line' c text = .ok read := by
  unfold readToken at hread ⊢
  split at hread
  next hc =>
    rw [if_pos hc]
    exact readString_relined hread
  next hc =>
    rw [if_neg hc]
    split at hread
    next hc =>
      rw [if_pos hc]
      exact readNumber_relined hread
    next hc =>
      rw [if_neg hc]
      split at hread
      next hc =>
        rw [if_pos hc]
        exact readPath_relined hread
      next hc =>
        rw [if_neg hc]
        split at hread
        next hc =>
          rw [if_pos hc]
          exact readWord_relined hread
        next hc =>
          rw [if_neg hc]
          split at hread
          next => exact hread
          next => cases hread

/-! ## States -/

namespace State

/-- Two states that differ at most in the numbers of lines. -/
structure Relined (state state' : State) : Prop where
  brackets : state'.brackets = state.brackets
  indents : state'.indents = state.indents
  atLineStart : state'.atLineStart = state.atLineStart
  lexemes : state'.lexemes.map Lexeme.token = state.lexemes.map Lexeme.token

variable {state state' : State}

theorem Relined.of_line (state : State) (line : Nat) : state.Relined { state with line } :=
  ⟨rfl, rfl, rfl, rfl⟩

namespace Relined

variable (hrelined : state.Relined state')

include hrelined

theorem push (token : Token) : (state.push token).Relined (state'.push token) :=
  ⟨hrelined.brackets, hrelined.indents, hrelined.atLineStart,
    congrArg (List.cons token) hrelined.lexemes⟩

theorem begun : ({ state with atLineStart := false } : State).Relined
    { state' with atLineStart := false } :=
  ⟨hrelined.brackets, hrelined.indents, rfl, hrelined.lexemes⟩

theorem withLine (line line' : Nat) :
    ({ state with line } : State).Relined { state' with line := line' } :=
  ⟨hrelined.brackets, hrelined.indents, hrelined.atLineStart, hrelined.lexemes⟩

theorem pushNewline : state.pushNewline.Relined state'.pushNewline := by
  have hlexemes := hrelined.lexemes
  unfold State.pushNewline
  cases hfirst : state.lexemes with
  | nil =>
      rw [hfirst, List.map_nil, List.map_eq_nil_iff] at hlexemes
      rw [hlexemes]
      exact hrelined
  | cons last rest =>
      rw [hfirst, List.map_cons, List.map_eq_cons_iff] at hlexemes
      obtain ⟨last', rest', hsecond, hlast, -⟩ := hlexemes
      rw [hsecond]
      dsimp only
      rw [hlast]
      split
      · exact hrelined
      · exact hrelined.push .newline

theorem nextLine : state.nextLine.Relined state'.nextLine := by
  have hpushed := hrelined.pushNewline
  unfold State.nextLine
  rw [hrelined.brackets]
  split
  · exact ⟨hpushed.brackets, hpushed.indents, rfl, hpushed.lexemes⟩
  · exact ⟨rfl, hrelined.indents, hrelined.atLineStart, hrelined.lexemes⟩

theorem accept (token : Token) : (state.accept token).Relined (state'.accept token) := by
  have hpushed := hrelined.push token
  rw [accept_eq, accept_eq, hrelined.brackets]
  exact ⟨rfl, hpushed.indents, hpushed.atLineStart, hpushed.lexemes⟩

theorem withIndents (indents : List Nat) :
    ({ state with indents } : State).Relined { state' with indents } :=
  ⟨hrelined.brackets, rfl, hrelined.atLineStart, hrelined.lexemes⟩

theorem closeTo (width : Nat) (indents : List Nat) :
    (closeTo width indents state).Relined (closeTo width indents state') := by
  induction indents generalizing state state' with
  | nil => exact hrelined.withIndents []
  | cons top rest ih =>
      rw [State.closeTo, State.closeTo]
      split
      · exact ih (hrelined.push .dedent)
      · exact hrelined.withIndents _

theorem indentTo (width : Nat) :
    Carries Relined (state.indentTo width) (state'.indentTo width) := by
  unfold State.indentTo
  dsimp only
  rw [hrelined.indents]
  have hclosed := hrelined.closeTo width state.indents
  split
  · exact Carries.ok ((hrelined.withIndents _).push .indent)
  · split
    · rw [hclosed.indents]
      split
      · exact Carries.ok hclosed
      · exact Carries.error _ _
    · exact Carries.ok hrelined

end Relined

end State

/-! ## Steps -/

/-- Two intermediate results with the same rest of the text, whose states differ at most in the
numbers of lines. -/
def RelinedWith (middle middle' : State × List Char) : Prop :=
  middle.1.Relined middle'.1 ∧ middle.2 = middle'.2

variable {state state' : State}

theorem startLine_relined (hrelined : state.Relined state') (text : List Char) :
    Carries RelinedWith (startLine state text) (startLine state' text) := by
  unfold startLine
  dsimp only
  split
  · exact Carries.ok ⟨hrelined.begun, rfl⟩
  · refine Carries.map (hrelined.begun.indentTo _) ?_
    intro next next' hnext
    exact ⟨hnext, rfl⟩

theorem settleLine_relined (hrelined : state.Relined state') (text : List Char) :
    Carries RelinedWith (settleLine state text) (settleLine state' text) := by
  unfold settleLine
  rw [hrelined.atLineStart, hrelined.brackets]
  split
  · exact startLine_relined hrelined text
  · exact Carries.ok ⟨⟨rfl, hrelined.indents, rfl, hrelined.lexemes⟩, rfl⟩

theorem joinLine_relined (hrelined : state.Relined state') (text : List Char) :
    Carries RelinedWith (joinLine state text) (joinLine state' text) := by
  unfold joinLine
  dsimp only
  split
  · exact Carries.ok ⟨hrelined.withLine _ _, rfl⟩
  · exact Carries.error _ _

theorem takeOne_relined (hrelined : state.Relined state') (c : Char) (rest : List Char) :
    Carries RelinedWith (takeOne state c rest) (takeOne state' c rest) := by
  unfold takeOne
  split
  · exact Carries.ok ⟨hrelined.nextLine, rfl⟩
  · split
    · exact Carries.ok ⟨hrelined, rfl⟩
    · split
      · exact Carries.ok ⟨hrelined, rfl⟩
      · split
        · exact joinLine_relined hrelined rest
        · have hread : Carries Eq (readToken state.line c rest) (readToken state'.line c rest) :=
            fun read hread => ⟨read, readToken_relined hread, rfl⟩
          refine hread.map ?_
          rintro ⟨token, left⟩ _ rfl
          exact ⟨hrelined.accept token, rfl⟩

theorem step_relined (hrelined : state.Relined state') (text : List Char) :
    Carries RelinedWith (step state text) (step state' text) := by
  rw [step_eq, step_eq]
  refine Carries.bind (settleLine_relined hrelined text) ?_
  rintro ⟨middle, left⟩ ⟨middle', left'⟩ ⟨hmiddle, hleft⟩
  dsimp only at hmiddle hleft
  subst hleft
  cases left with
  | nil => exact Carries.ok ⟨hmiddle, rfl⟩
  | cons c left => exact takeOne_relined hmiddle c left

/-- What is scanned from a state is scanned from the same state on another line. -/
theorem scan_relined (hrelined : state.Relined state') (text : List Char) :
    Carries State.Relined (scan state text) (scan state' text) := by
  fun_induction scan state text generalizing state' with
  | case1 state =>
      rw [scan]
      exact Carries.ok hrelined
  | case2 => exact Carries.error _ _
  | case3 state c rest next left hstep ih =>
      obtain ⟨⟨next', _⟩, hstep', hnext, rfl⟩ := step_relined hrelined (c :: rest) _ hstep
      rw [scan_cons hstep']
      exact ih hnext

end SchemaGuard.Lexer
