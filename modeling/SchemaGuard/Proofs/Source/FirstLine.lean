import SchemaGuard.Proofs.Source.Remarks

/-! # Sources whose first line is indented

No statement begins with indentation. So a source is refused whose first line that is no remark is
indented.
-/

namespace SchemaGuard

open Outcome Text

namespace Lexer

/-! ## Tokens that stay -/

namespace State

theorem suffix_pushNewline (state : State) : state.lexemes <:+ state.pushNewline.lexemes := by
  unfold pushNewline
  split
  · exact List.suffix_rfl
  · split
    · exact List.suffix_rfl
    · exact List.suffix_cons _ _

theorem suffix_nextLine (state : State) : state.lexemes <:+ state.nextLine.lexemes := by
  unfold nextLine
  split
  · exact state.suffix_pushNewline
  · exact List.suffix_rfl

theorem suffix_accept (state : State) (token : Token) :
    state.lexemes <:+ (state.accept token).lexemes := by
  rw [accept_eq]
  exact List.suffix_cons _ _

theorem suffix_closeAll (indents : List Nat) (state : State) :
    state.lexemes <:+ (closeAll indents state).lexemes := by
  fun_induction closeAll indents state with
  | case1 | case2 => exact List.suffix_rfl
  | case3 _ _ state _ ih => exact (List.suffix_cons _ _).trans ih

/-- The tokens of a source begin with those read first. -/
theorem prefix_finish (state : State) : state.lexemes.reverse <+: state.finish := by
  unfold finish
  dsimp only
  rw [List.reverse_prefix]
  exact (state.suffix_pushNewline.trans (suffix_closeAll _ _)).trans (List.suffix_cons _ _)

theorem Becomes.suffix {state next : State} (hbecomes : Becomes state next) :
    state.lexemes <:+ next.lexemes := by
  refine hbecomes.keeps (fun next => state.lexemes <:+ next.lexemes) ?_ List.suffix_rfl
  intro middle next hchange hsuffix
  refine hsuffix.trans ?_
  cases hchange with
  | begun | joined => exact List.suffix_rfl
  | indent | dedent => exact List.suffix_cons _ _
  | lineEnd => exact middle.suffix_nextLine
  | token => exact middle.suffix_accept _

end State

theorem suffix_takeNext {middle next : State × List Char} (htake : takeNext middle = .ok next) :
    middle.1.lexemes <:+ next.1.lexemes :=
  (State.takeNext_becomes htake).suffix

/-- What has been read stays. -/
theorem suffix_scan {state final : State} {text : List Char}
    (hscan : scan state text = .ok final) : state.lexemes <:+ final.lexemes :=
  (State.scan_becomes hscan).suffix

/-! ## Indentation before the first token -/

/-- A line with something other than a remark after its indentation. -/
def IsIndented (line : List Char) : Prop :=
  ∃ indent text, line = indent ++ text ∧ indent ≠ [] ∧ (∀ c ∈ indent, isIndent c = true) ∧
    beginsLine text = true

theorem indentation_pos {indent text : List Char} (hindent : ∀ c ∈ indent, isIndent c = true)
    (hne : indent ≠ []) : 0 < (indentation (indent ++ text)).1 := by
  obtain _ | ⟨c, rest⟩ := indent
  · exact absurd rfl hne
  rcases isIndent_cases (hindent c List.mem_cons_self) with rfl | rfl
  · exact Nat.succ_pos _
  · exact Nat.add_pos_right _ (by decide)

/-- An indented line where no token has been read yet opens a block. -/
theorem settleLine_indented {state : State} (hstate : state.BeginsLine)
    (hindents : state.indents = [0]) {indent text : List Char}
    (hindent : ∀ c ∈ indent, isIndent c = true) (hne : indent ≠ [])
    (htext : beginsLine text = true) :
    ∃ next, settleLine state (indent ++ text) = .ok (next, text) ∧
      next.lexemes = ⟨.indent, state.line⟩ :: state.lexemes := by
  obtain ⟨hindentation, hcomment⟩ := indentation_beginsLine htext
  have hrest : (indentation (indent ++ text)).2 = text := by
    rw [indentation_append hindent, hindentation]
  have hwidth : state.indents.head?.getD 0 < (indentation (indent ++ text)).1 := by
    rw [hindents]
    exact indentation_pos hindent hne
  rw [settleLine, if_pos ⟨hstate.atLineStart, hstate.brackets⟩, startLine]
  dsimp only
  rw [hrest, hcomment, State.indentTo]
  dsimp only
  rw [if_pos hwidth]
  exact ⟨_, rfl, rfl⟩

theorem scan_indented {state final : State} (hstate : state.BeginsLine)
    (hlexemes : state.lexemes = []) (hindents : state.indents = [0]) {line : List Char}
    (hline : IsIndented line) {rest : List Char}
    (hscan : scan state (line ++ rest) = .ok final) :
    [⟨.indent, state.line⟩] <:+ final.lexemes := by
  obtain ⟨indent, text, rfl, hne, hindent, htext⟩ := hline
  obtain ⟨c, after, rfl⟩ := List.exists_cons_of_ne_nil hne
  have htext : beginsLine (text ++ rest) = true := by
    cases text with
    | nil => cases htext
    | cons d text => exact htext
  obtain ⟨opened, hsettle, hopened⟩ := settleLine_indented hstate hindents hindent hne htext
  rw [List.append_assoc, List.cons_append, scan_eq_bind] at hscan
  obtain ⟨next, hstep, hnext⟩ := bind_eq_ok.mp hscan
  rw [step_eq, ← List.cons_append, hsettle, ok_bind] at hstep
  rw [← hlexemes, ← hopened]
  exact (suffix_takeNext hstep).trans (suffix_scan hnext)

/-- Text with an indented line before which there are only blank lines and remarks. -/
theorem scan_indented_first {pieces : List (List Char)} {state final : State}
    (hstate : state.BeginsLine) (hlexemes : state.lexemes = []) (hindents : state.indents = [0])
    (hpieces : ∀ piece ∈ pieces, '\n' ∉ piece)
    (hkinds : ∀ piece ∈ pieces, isBlankLine piece = true ∨ IsRemark piece ∨ IsIndented piece)
    (hindented : ∃ piece ∈ pieces, IsIndented piece)
    (hscan : scan state (join ['\n'] pieces) = .ok final) :
    ∃ line, [⟨.indent, line⟩] <:+ final.lexemes := by
  induction pieces generalizing state with
  | nil =>
      obtain ⟨piece, hpiece, _⟩ := hindented
      cases hpiece
  | cons piece rest ih =>
      obtain ⟨after, hafter⟩ := join_cons_append piece rest
      by_cases hpiece : IsIndented piece
      · rw [hafter] at hscan
        exact ⟨_, scan_indented hstate hlexemes hindents hpiece hscan⟩
      obtain ⟨other, hother, hindented⟩ := hindented
      have hrest : other ∈ rest := by
        rcases List.mem_cons.mp hother with rfl | hrest
        · exact absurd hindented hpiece
        · exact hrest
      obtain ⟨hline, hpieces⟩ := List.forall_mem_cons.mp hpieces
      obtain ⟨hkind, hkinds⟩ := List.forall_mem_cons.mp hkinds
      have hremark : IsRemark piece := by
        rcases hkind with hblank | hremark | hindented
        · rw [hafter] at hscan
          exact .blank (skipped_of_scan_line hblank hline hscan)
        · exact hremark
        · exact absurd hindented hpiece
      rw [join_cons piece (List.ne_nil_of_mem hrest), scan_remark_line hstate hremark] at hscan
      have hnext := hstate.relined (state.line + 1)
      exact ih hnext hlexemes hindents hpieces hkinds ⟨other, hrest, hindented⟩ hscan

/-! ## Lines of code -/

/-- A visible line is a comment or has a token after its indentation, unless a carriage return
stands there. -/
theorem comment_or_begins {line : List Char} (hline : '\n' ∉ line)
    (hvisible : isBlankLine line = false) (hreturn : opening? line ≠ some '\r') :
    opening? line = some '#' ∨ ∃ indent c text, line = indent ++ c :: text ∧
      (∀ d ∈ indent, isIndent d = true) ∧ isIndent c = false ∧ beginsLine (c :: text) = true := by
  obtain ⟨c, hopening⟩ := opening?_of_visible hvisible
  obtain ⟨hc, indent, text, rfl, hindent⟩ := opening?_eq_some hopening
  by_cases hcomment : c = '#'
  · exact .inl (hcomment ▸ hopening)
  · refine .inr ⟨indent, c, text, rfl, hindent, hc, ?_⟩
    have hnone : ¬ c = ' ' ∧ ¬ c = '\t' := by simpa [isIndent] using hc
    have hend : c ≠ '\n' := by
      rintro rfl
      exact hline (List.mem_append_right _ List.mem_cons_self)
    have hc : c ≠ '\r' := fun heq => hreturn (heq ▸ hopening)
    simp [beginsLine, hnone, hend, hc, hcomment]

/-- Less indentation is taken off a line of code than it has. -/
theorem isIndented_outdent {indent text : List Char} {c : Char} {width : Nat}
    (hindent : ∀ d ∈ indent, isIndent d = true) (htext : beginsLine (c :: text) = true)
    (hwidth : width < indent.length) : IsIndented (outdent width (indent ++ c :: text)) := by
  have hreturn : c ≠ '\r' := by
    rintro rfl
    cases htext
  obtain ⟨rest, _, heq⟩ := outdent_append hindent (Nat.le_of_lt hwidth) hreturn text
  refine ⟨indent.drop width, c :: rest, heq, ?_, ?_, htext⟩
  · exact List.ne_nil_of_length_pos (by rw [List.length_drop]; omega)
  · exact fun d hd => hindent d (List.mem_of_mem_drop hd)

/-- A visible line that is more indented than what is taken off it stays a comment or indented. -/
theorem outdent_visible {line : List Char} {width : Nat} (hline : '\n' ∉ line)
    (hvisible : isBlankLine line = false) (hreturn : opening? line ≠ some '\r')
    (hwidth : width < indentWidth line) :
    opening? line = some '#' ∧ IsRemark (outdent width line) ∨
      IsIndented (outdent width line) := by
  obtain hopening | ⟨indent, c, text, rfl, hindent, hc, htext⟩ :=
    comment_or_begins hline hvisible hreturn
  · have hremark := IsRemark.of_opening hopening hline
    exact .inl ⟨hopening, hremark.outdent (.inr (Nat.le_of_lt hwidth))⟩
  · rw [indentWidth_append hindent hc] at hwidth
    exact .inr (isIndented_outdent hindent htext hwidth)

end Lexer

namespace Parser

/-! ## Reading stops at indentation -/

/-- Whether reading comes to no result. -/
def Refused {α : Type} (outcome : Except Halt α) : Prop :=
  ∀ a, outcome ≠ .ok a

namespace Refused

variable {α β : Type}

theorem error (halt : Halt) : Refused (.error halt : Except Halt α) :=
  fun _ hok => nomatch hok

theorem bind {outcome : Except Halt α} (houtcome : Refused outcome)
    (next : α → Except Halt β) : Refused (outcome >>= next) := by
  intro b hb
  obtain ⟨a, ha, _⟩ := bind_eq_ok.mp hb
  exact houtcome a ha

theorem map {outcome : Except Halt α} (houtcome : Refused outcome) (f : α → β) :
    Refused (outcome.map f) := by
  intro b hb
  obtain ⟨a, ha, _⟩ := map_eq_ok.mp hb
  exact houtcome a ha

/-- A reading comes to no result if it comes to none with a call to spend. -/
theorem of_succ {reading : Nat → Except Halt α} (hnone : reading 0 = .error .exhausted)
    (hreading : ∀ fuel, Refused (reading (fuel + 1))) (fuel : Nat) : Refused (reading fuel) := by
  cases fuel with
  | zero =>
      rw [hnone]
      exact .error _
  | succ fuel => exact hreading fuel

end Refused

section

variable {limits : ParseLimits} {tokens : List Lexeme}

theorem chain_refused {level : Level} {depth : Nat}
    (hoperand : ∀ fuel, Refused (operand limits fuel level depth tokens)) :
    ∀ fuel, Refused (chain limits fuel level depth tokens) := by
  refine Refused.of_succ (by rw [chain]) fun fuel => ?_
  rw [chain]
  exact (hoperand fuel).bind _

variable (hcurrent : current tokens = .indent)

include hcurrent

theorem signed_indent (depth : Nat) : ∀ fuel, Refused (signed limits fuel depth tokens) := by
  have hprimary : ∀ fuel, Refused (primary limits fuel depth tokens) := by
    refine Refused.of_succ (by rw [primary]) fun fuel => ?_
    simp only [primary, hcurrent]
    exact .error _
  refine Refused.of_succ (by rw [signed]) fun fuel => ?_
  simp only [signed, hcurrent]
  exact (hprimary fuel).bind _

theorem negation_indent (depth : Nat) : ∀ fuel, Refused (negation limits fuel depth tokens) := by
  have hterm : ∀ fuel, Refused (chain limits fuel .term depth tokens) := by
    refine chain_refused (Refused.of_succ (by rw [operand]) fun fuel => ?_)
    rw [operand]
    exact signed_indent hcurrent depth fuel
  have hsum : ∀ fuel, Refused (chain limits fuel .sum depth tokens) := by
    refine chain_refused (Refused.of_succ (by rw [operand]) fun fuel => ?_)
    rw [operand]
    exact hterm fuel
  refine Refused.of_succ (by rw [negation]) fun fuel => ?_
  simp only [negation, hcurrent]
  exact (hsum fuel).bind _

theorem expression_indent (depth : Nat) :
    ∀ fuel, Refused (expression limits fuel depth tokens) := by
  have hconjunction (depth : Nat) :
      ∀ fuel, Refused (chain limits fuel .conjunction depth tokens) := by
    refine chain_refused (Refused.of_succ (by rw [operand]) fun fuel => ?_)
    rw [operand]
    exact negation_indent hcurrent depth fuel
  have hdisjunction (depth : Nat) :
      ∀ fuel, Refused (chain limits fuel .disjunction depth tokens) := by
    refine chain_refused (Refused.of_succ (by rw [operand]) fun fuel => ?_)
    rw [operand]
    exact hconjunction depth fuel
  refine Refused.of_succ (by rw [expression]) fun fuel => ?_
  rw [expression]
  intro result hresult
  obtain ⟨inner, _, hrest⟩ := bind_eq_ok.mp hresult
  exact (hdisjunction inner fuel).bind _ result hrest

theorem statement_indent (depth : Nat) : ∀ fuel, Refused (statement limits fuel depth tokens) := by
  have hsimple (fuel : Nat) : Refused (simple limits fuel depth tokens) := by
    simp only [simple, hcurrent]
    exact ((expression_indent hcurrent depth fuel).bind _).map _
  have hline : ∀ fuel, Refused (simpleLine limits fuel depth tokens) :=
    Refused.of_succ rfl fun fuel => (hsimple fuel).bind _
  refine Refused.of_succ (by rw [statement]) fun fuel => ?_
  simp only [statement, hcurrent]
  exact hline fuel

/-- No program begins with indentation. -/
theorem program_indent : ∀ fuel, Refused (program limits fuel tokens) := by
  refine Refused.of_succ rfl fun fuel => ?_
  simp only [program, hcurrent]
  exact (statement_indent hcurrent 0 fuel).bind _

end

/-- A source whose first token is indentation stands for no program. -/
theorem program_indented {limits : ParseLimits} {state : Lexer.State} {line : Nat}
    (hfirst : [⟨.indent, line⟩] <:+ state.lexemes) (fuel : Nat) :
    Refused (program limits fuel (skipNewlines state.finish)) := by
  obtain ⟨later, hlater⟩ := hfirst
  obtain ⟨rest, hrest⟩ := state.prefix_finish
  have hcurrent : current state.finish = .indent := by
    rw [← hrest, ← hlater, List.reverse_append]
    rfl
  have hskip : skipNewlines state.finish = state.finish := by
    apply InStep.skipNewlines_eq
    rw [hcurrent]
    exact nofun
  rw [hskip]
  exact program_indent hcurrent fuel

end Parser

end SchemaGuard
