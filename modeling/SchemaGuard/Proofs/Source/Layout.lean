import SchemaGuard.Proofs.Source.Dedent
import SchemaGuard.Proofs.Source.Returns

/-! # Sources that are laid out differently

A program depends on the tokens of its source and not on the lines on which they stand. More
indentation before every line and carriage returns at the ends of lines change no token.
-/

namespace SchemaGuard

open Outcome

namespace Parser

/-! ## Tokens on other lines -/

variable {limits : ParseLimits} {ends : Ends} {within : Bool} {brackets blocks : Nat}
  {tokens tokens' : List Lexeme}

theorem InStep.tokens_eq (htokens : InStep ends within brackets blocks tokens tokens')
    (hends : ends.second.map Lexeme.token = ends.first.map Lexeme.token) :
    tokens'.map Lexeme.token = tokens.map Lexeme.token := by
  induction htokens with
  | done => exact hends
  | inline | newline | indent | dedent => simp_all

theorem InStep.relined {line : Nat} (htokens : InStep ends within brackets blocks tokens tokens')
    (hsecond : ends.second = [⟨.eof, line⟩]) {lexemes : List Lexeme}
    (hlexemes : lexemes.map Lexeme.token = tokens'.map Lexeme.token) :
    ∃ line', InStep ⟨ends.brackets, ends.first, [⟨.eof, line'⟩], ends.first_apart, apart_eof _⟩
      within brackets blocks tokens lexemes := by
  induction htokens generalizing lexemes with
  | done =>
      rw [hsecond, List.map_singleton, List.map_eq_singleton_iff] at hlexemes
      obtain ⟨⟨_, line'⟩, rfl, rfl⟩ := hlexemes
      exact ⟨line', .done⟩
  | inline htoken _ ih =>
      rw [List.map_cons, List.map_eq_cons_iff] at hlexemes
      obtain ⟨⟨_, _⟩, rest, rfl, rfl, hrest⟩ := hlexemes
      exact (ih hrest).imp fun _ hrest => .inline htoken hrest
  | newline _ ih =>
      rw [List.map_cons, List.map_eq_cons_iff] at hlexemes
      obtain ⟨⟨_, _⟩, rest, rfl, rfl, hrest⟩ := hlexemes
      exact (ih hrest).imp fun _ hrest => .newline hrest
  | indent _ ih =>
      rw [List.map_cons, List.map_eq_cons_iff] at hlexemes
      obtain ⟨⟨_, _⟩, rest, rfl, rfl, hrest⟩ := hlexemes
      exact (ih hrest).imp fun _ hrest => .indent hrest
  | dedent _ ih =>
      rw [List.map_cons, List.map_eq_cons_iff] at hlexemes
      obtain ⟨⟨_, _⟩, rest, rfl, rfl, hrest⟩ := hlexemes
      exact (ih hrest).imp fun _ hrest => .dedent hrest

end Parser

open SchemaGuard.Lexer SchemaGuard.Parser

/-- The lines on which tokens stand do not change the program. -/
theorem program_relined {limits : ParseLimits} {text : List Char} {final : State}
    (hscan : scan {} text = .ok final) {lexemes : List Lexeme}
    (htokens : lexemes.map Lexeme.token = final.finish.map Lexeme.token) {whole : Program}
    (hprogram : program limits (budget final.finish) (skipNewlines final.finish) = .ok whole) :
    program limits (budget lexemes) (skipNewlines lexemes) = .ok whole := by
  let ends : Ends :=
    ⟨final.brackets, [⟨.eof, final.line⟩], [⟨.eof, final.line⟩], apart_eof _, apart_eof _⟩
  have hstart : State.LaidOut ends {} := State.laidOut_start
  obtain ⟨widths, hindents, hleads⟩ := hstart.scan hscan
  have hfinish := State.finish_inStep hindents hleads rfl rfl final.line
  obtain ⟨line, hinStep⟩ := hfinish.relined rfl (htokens.trans (hfinish.tokens_eq rfl).symm)
  have hbudget : budget lexemes = budget final.finish := by
    have hlength := congrArg List.length htokens
    rw [List.length_map, List.length_map] at hlength
    rw [budget, hlength, budget]
  obtain ⟨_, left, hleft⟩ : _ ∧ ∃ left, program limits (0 + budget final.finish) _ =
      (program limits (0 + left) [⟨.eof, line⟩]).map (whole ++ ·) :=
    program_inStep rfl _ hinStep.skipNewlines hprogram
  rw [Nat.zero_add, Nat.zero_add] at hleft
  rw [hbudget, hleft]
  cases left with
  | zero =>
      -- The budget is enough for all of the tokens.
      have hskip := skipNewlines_length lexemes
      have hconcludes : Concludes (fun _ => True)
          (program limits (budget final.finish) (skipNewlines lexemes)) :=
        program_concludes _ _ (by rw [← hbudget, budget]; omega)
      exact absurd rfl (hconcludes.1 _ hleft)
  | succ left => simp [program]

namespace Lexer

/-! ## Line ends at the end -/

/-- The tokens of a source, wherever they stand. -/
def State.tokens (state : State) : List Token :=
  state.finish.map Lexeme.token

theorem State.closeAll_tokens (indents : List Nat) (state : State) :
    (closeAll indents state).lexemes.map Lexeme.token =
      List.replicate (indents.length - 1) .dedent ++ state.lexemes.map Lexeme.token := by
  fun_induction closeAll indents state with
  | case1 | case2 => rfl
  | case3 width rest state hrest ih =>
      obtain ⟨next, rest, rfl⟩ := List.exists_cons_of_ne_nil hrest
      have hmarks : List.replicate (next :: rest).length Token.dedent =
          List.replicate rest.length .dedent ++ [Token.dedent] := List.replicate_succ'
      rw [ih, List.length_cons, Nat.add_sub_cancel, List.length_cons, Nat.add_sub_cancel,
        hmarks, List.append_assoc]
      rfl

theorem State.tokens_congr {state state' : State}
    (hlexemes : state.lexemes.map Lexeme.token = state'.lexemes.map Lexeme.token)
    (hindents : state.indents = state'.indents) : state.tokens = state'.tokens := by
  have hended : state.pushNewline.lexemes.map Lexeme.token =
      state'.pushNewline.lexemes.map Lexeme.token := by
    unfold pushNewline
    cases hfirst : state.lexemes with
    | nil =>
        rw [hfirst, List.map_nil, eq_comm, List.map_eq_nil_iff] at hlexemes
        rw [hlexemes, hfirst, hlexemes]
    | cons last rest =>
        rw [hfirst, List.map_cons, eq_comm, List.map_eq_cons_iff] at hlexemes
        obtain ⟨last', rest', hsecond, hlast, hrest⟩ := hlexemes
        dsimp only
        rw [hsecond]
        dsimp only
        rw [hlast]
        split
        · rw [hfirst, hsecond, List.map_cons, List.map_cons, hlast, hrest]
        · rw [push, push, hfirst, hsecond]
          simp [hlast, hrest]
  have hclosed : state.pushNewline.indents = state'.pushNewline.indents := by
    rw [pushNewline_eq, pushNewline_eq state']
    exact hindents
  unfold tokens finish
  dsimp only
  rw [push, push, List.map_reverse, List.map_reverse, List.map_cons, List.map_cons,
    closeAll_tokens, closeAll_tokens, hended, hclosed]

theorem State.tokens_pushNewline (state : State) : state.pushNewline.tokens = state.tokens := by
  have hagain : state.pushNewline.pushNewline = state.pushNewline := by
    cases hlexemes : state.lexemes with
    | nil =>
        have hstate : state.pushNewline = state := by simp [pushNewline, hlexemes]
        rw [hstate, hstate]
    | cons last rest =>
        by_cases hlast : last.token = .newline
        · have hstate : state.pushNewline = state := by simp [pushNewline, hlexemes, hlast]
          rw [hstate, hstate]
        · have hstate : state.pushNewline = state.push .newline := by
            simp [pushNewline, hlexemes, hlast]
          rw [hstate]
          rfl
  rw [tokens, finish, hagain, tokens, finish]

/-- A line end after the last line adds no token. -/
theorem State.tokens_nextLine (state : State) : state.nextLine.tokens = state.tokens := by
  unfold nextLine
  split
  · exact Eq.trans (b := state.pushNewline.tokens) (tokens_congr rfl rfl) state.tokens_pushNewline
  · exact tokens_congr rfl rfl

/-- Two texts are scanned to the same tokens, or both are refused. -/
def SameTokens (text text' : List Char) : Prop :=
  Together (fun final final' : State => final'.tokens = final.tokens) (scan {} text)
    (scan {} text')

theorem SameTokens.refl (text : List Char) : SameTokens text text := by
  unfold SameTokens
  cases scan {} text with
  | error error => trivial
  | ok final => exact rfl

theorem SameTokens.symm {text text' : List Char} (hsame : SameTokens text text') :
    SameTokens text' text :=
  Together.symm hsame fun _ _ => Eq.symm

/-- A line end after a text makes no difference, unless it joins the last line to another one. -/
theorem sameTokens_trailing {text : List Char} (hjoins : ¬ JoinsOn text) :
    SameTokens text (text ++ ['\n']) := by
  unfold SameTokens
  cases hscan : scan {} text with
  | error error =>
      cases hscan' : scan {} (text ++ ['\n']) with
      | error error' => trivial
      | ok last =>
          obtain ⟨final, hfinal⟩ | ⟨hjoins', _⟩ := scan_before hscan'
          · cases hscan.symm.trans hfinal
          · exact absurd hjoins' hjoins
  | ok final =>
      by_cases hbrackets : final.brackets = 0
      · rw [scan_line hscan hbrackets, scan]
        exact final.tokens_nextLine
      · obtain ⟨start, hline⟩ : ∃ start, _ =
            scan { final with line := final.line + 1, atLineStart := start } [] :=
          scan_line_open hscan hbrackets
        rw [hline, scan]
        exact State.tokens_congr rfl rfl

/-! ## Texts without tokens -/

theorem indentation_blank {text : List Char}
    (htext : ∀ c ∈ text, Text.isIndent c = true ∨ c = '\n') :
    isBlankOrComment (indentation text).2 = true := by
  induction text with
  | nil => rfl
  | cons c rest ih =>
      obtain ⟨hc, hrest⟩ := List.forall_mem_cons.mp htext
      obtain (rfl | rfl) | rfl : (c = ' ' ∨ c = '\t') ∨ c = '\n' := by
        simpa [Text.isIndent] using hc
      · exact ih hrest
      · exact ih hrest
      · rfl

/-- A text of spaces, tabs and line ends has no tokens. -/
theorem scan_blank {text : List Char} (htext : ∀ c ∈ text, Text.isIndent c = true ∨ c = '\n')
    {state : State} (hlexemes : state.lexemes = []) :
    ∃ final, scan state text = .ok final ∧ final.lexemes = [] ∧ final.indents = state.indents := by
  induction hlength : text.length using Nat.strongRecOn generalizing text state with
  | ind length ih =>
  subst hlength
  obtain _ | ⟨c, rest⟩ := text
  · exact ⟨state, by rw [scan], hlexemes, rfl⟩
  obtain ⟨left, hsettle, hsuffix⟩ : ∃ left, settleLine state (c :: rest) =
      .ok ({ state with atLineStart := false }, left) ∧ left <:+ c :: rest := by
    unfold settleLine
    split
    · exact ⟨_, if_pos (indentation_blank htext), indentation_suffix (c :: rest)⟩
    · exact ⟨_, rfl, List.suffix_rfl⟩
  rw [scan_eq_bind, step_eq, hsettle, ok_bind]
  obtain _ | ⟨d, after⟩ := left
  · exact ⟨{ state with atLineStart := false }, by simp only [takeNext, ok_bind, scan],
      hlexemes, rfl⟩
  have hafter : ∀ e ∈ after, Text.isIndent e = true ∨ e = '\n' := fun e he =>
    htext e (hsuffix.mem (List.mem_cons_of_mem _ he))
  have hshort := hsuffix.length_le
  rw [List.length_cons] at hshort
  obtain hd | rfl := htext d (hsuffix.mem List.mem_cons_self)
  · have hblank : d = ' ' ∨ d = '\t' := by simpa [Text.isIndent] using hd
    have htake : takeNext ({ state with atLineStart := false }, d :: after) =
        .ok ({ state with atLineStart := false }, after) := by
      obtain rfl | rfl := hblank <;> rfl
    rw [htake, ok_bind]
    exact ih after.length (by omega) hafter hlexemes rfl
  · rw [takeNext, takeOne, if_pos rfl, ok_bind]
    have hline : ({ state with atLineStart := false } : State).nextLine.lexemes = [] ∧
        ({ state with atLineStart := false } : State).nextLine.indents = state.indents := by
      unfold State.nextLine
      split <;> simp [State.pushNewline, hlexemes]
    obtain ⟨final, hfinal, hempty, hindents⟩ := ih after.length (by omega) hafter hline.1 rfl
    exact ⟨final, hfinal, hempty, hindents.trans hline.2⟩

/-! ## Line ends -/

theorem returned_withReturns {text : List Char} (hreturn : '\r' ∉ text) :
    Returned text (Text.withReturns text) := by
  induction text with
  | nil => exact .nil
  | cons c rest ih =>
      obtain ⟨hc, hrest⟩ := List.ne_and_not_mem_of_not_mem_cons hreturn
      rw [Text.withReturns, List.flatMap_cons, ← Text.withReturns]
      split
      next hline =>
        subst hline
        exact .turn (ih hrest)
      next hline => exact .char hline (Ne.symm hc) (ih hrest)

end Lexer

/-! ## Programs -/

/-- Two sources whose texts are scanned to the same tokens stand for the same program. -/
theorem Program.parse_congr {limits : ParseLimits} {source source' : String}
    (hlength : (String.ofList (Text.dedent source.toList)).utf8ByteSize ≤ limits.maxLength)
    (hlength' : (String.ofList (Text.dedent source'.toList)).utf8ByteSize ≤ limits.maxLength)
    (hsame : SameTokens (Text.dedent source.toList) (Text.dedent source'.toList))
    (program : Program) :
    Program.parse limits source = .ok program ↔ Program.parse limits source' = .ok program := by
  have hforward : ∀ {source source' : String},
      (String.ofList (Text.dedent source'.toList)).utf8ByteSize ≤ limits.maxLength →
      SameTokens (Text.dedent source.toList) (Text.dedent source'.toList) →
      Program.parse limits source = .ok program → Program.parse limits source' = .ok program := by
    intro source source' hlength' hsame hparse
    obtain ⟨final, _, hfinal, hprogram⟩ := Program.parse_eq_ok.mp hparse
    obtain ⟨_, _, herror, _⟩ | ⟨_, final', hfinal', hlast, htokens⟩ := Together.cases hsame
    · cases hfinal.symm.trans herror
    · cases hfinal.symm.trans hfinal'
      exact Program.parse_eq_ok.mpr
        ⟨final', hlength', hlast, program_relined hfinal htokens hprogram⟩
  exact ⟨hforward hlength' hsame, hforward hlength hsame.symm⟩

/-- A text, and the same with a line end after it, are scanned to the same tokens. -/
theorem sameTokens_trailed {text first second : List Char} (hreturn : '\r' ∉ text)
    (hend : text.getLast? ≠ some '\\') (hfirst : Text.Trailed text first)
    (hsecond : Text.Trailed text second) : SameTokens first second := by
  have hjoins : ¬ JoinsOn text := by
    rintro (⟨before, rfl⟩ | ⟨before, rfl⟩)
    · exact hend (by simp)
    · exact hreturn (by simp)
  have htrailing := sameTokens_trailing hjoins
  obtain rfl | rfl := hfirst <;> obtain rfl | rfl := hsecond
  · exact .refl _
  · exact htrailing
  · exact htrailing.symm
  · exact .refl _

theorem sameTokens_blanks {text text' : List Char}
    (htext : ∀ c ∈ text, Text.isIndent c = true ∨ c = '\n')
    (htext' : ∀ c ∈ text', Text.isIndent c = true ∨ c = '\n') : SameTokens text text' := by
  obtain ⟨final, hfinal, hlexemes, hindents⟩ : ∃ final, scan {} text = .ok final ∧ _ :=
    scan_blank htext rfl
  obtain ⟨final', hfinal', hlexemes', hindents'⟩ : ∃ final, scan {} text' = .ok final ∧ _ :=
    scan_blank htext' rfl
  rw [SameTokens, hfinal, hfinal']
  exact State.tokens_congr (by rw [hlexemes, hlexemes']) (hindents'.trans hindents.symm)

/-- A text and the same text further indented are scanned to the same tokens after both are
dedented. -/
theorem sameTokens_indented {before text text' : List Char}
    (hbefore : ∀ c ∈ before, Text.isIndent c = true) (htext : Text.Indented before text text')
    (hreturn : '\r' ∉ text)
    (hblank : ∀ line ∈ Text.lines text, Text.isBlankLine line = true →
      ∀ c ∈ line, Text.isIndent c = true)
    (hjoins : Text.endsJoining text = false) :
    SameTokens (Text.dedent text) (Text.dedent text') := by
  by_cases hvisible : ∃ line ∈ Text.lines text, Text.isBlankLine line = false
  · have hcut := Text.cut_not_joining (Text.commonIndent text) hjoins
    have hreturn' : '\r' ∉ Text.cut (Text.commonIndent text) text := fun hmem =>
      hreturn ((Text.cut_sublist _ hreturn).mem hmem)
    refine sameTokens_trailed hreturn' hcut (Text.trailed_dedent hreturn) ?_
    by_cases hempty : before = []
    · subst hempty
      rw [htext.eq_of_nil]
      exact Text.trailed_dedent hreturn
    · exact Text.trailed_dedent_indented hbefore htext hreturn hempty hvisible
  · -- Without a visible line neither text has a token.
    have hall : ∀ line ∈ Text.lines text, Text.isBlankLine line = true := by
      simpa using hvisible
    have hlayout : ∀ c ∈ text, Text.isIndent c = true ∨ c = '\n' := by
      intro c hc
      obtain hc | ⟨line, hline, hc⟩ := Text.mem_lines_or hreturn hc
      · exact .inr hc
      · exact .inl (hblank line hline (hall line hline) c hc)
    rw [Text.dedent_blank hall, Text.dedent_blank fun line =>
      Text.isBlankLine_of_mem_indented hbefore htext hreturn hall]
    exact sameTokens_blanks hlayout fun c hc =>
      (htext.mem hc).elim (fun hc => .inl (hbefore c hc)) (hlayout c)

/-- The layout of a source does not matter to what it says. Take a source without carriage returns
whose blank lines are of spaces and tabs and whose last line that is not blank does not end in a
backslash. If every line is indented by the same spaces and tabs, or if every line end gets a
carriage return, then the same program is read, or none as before. -/
theorem Program.parse_ignores_layout {limits : ParseLimits} {source : String}
    (hreturn : '\r' ∉ source.toList)
    (hblank : ∀ line ∈ Text.lines source.toList, Text.isBlankLine line = true →
      ∀ c ∈ line, Text.isIndent c = true)
    (hjoins : Text.endsJoining source.toList = false)
    (hlength : source.utf8ByteSize ≤ limits.maxLength) :
    (∀ (before : List Char) (source' : String), (∀ c ∈ before, Text.isIndent c = true) →
        Text.Indented before source.toList source'.toList →
        source'.utf8ByteSize ≤ limits.maxLength → ∀ program,
          Program.parse limits source = .ok program ↔ Program.parse limits source' = .ok program) ∧
      ((String.ofList (Text.withReturns source.toList)).utf8ByteSize ≤ limits.maxLength →
        ∀ program, Program.parse limits source = .ok program ↔
          Program.parse limits (String.ofList (Text.withReturns source.toList)) = .ok program) := by
  have hshort : ∀ {source : String}, '\r' ∉ source.toList →
      source.utf8ByteSize ≤ limits.maxLength →
      (String.ofList (Text.dedent source.toList)).utf8ByteSize ≤ limits.maxLength := by
    intro source hreturn hlength
    refine Nat.le_trans (Text.utf8ByteSize_le (Text.dedent_sublist hreturn)) ?_
    rwa [String.ofList_toList]
  constructor
  · intro before source' hbefore hindented hlength' program
    exact Program.parse_congr (hshort hreturn hlength)
      (hshort (Text.return_notMem_indented hbefore hindented hreturn) hlength')
      (sameTokens_indented hbefore hindented hreturn hblank hjoins) program
  · intro hlength' program
    have hlength := hshort hreturn hlength
    have hreturns : (String.ofList (Text.withReturns source.toList)).toList =
        Text.withReturns source.toList := String.toList_ofList
    obtain hsame | ⟨hself', hself⟩ := Text.dedent_withReturns hreturn
    · rw [← hreturns] at hsame
      refine Program.parse_congr hlength ?_ ?_ program
      · rwa [hsame]
      · rw [hsame]
        exact .refl _
    · rw [← hreturns] at hself'
      refine Program.parse_congr hlength ?_ ?_ program
      · rwa [hself', hreturns]
      · rw [hself', hself, hreturns]
        have hscan : Together Eq (scan {} source.toList) _ :=
          scan_returned (returned_withReturns hreturn) {}
        exact hscan.mono fun _ _ hfinal => congrArg State.tokens hfinal.symm

/-- A block with a blank line and a comment in it, further indented and with carriage returns. -/
theorem Program.parse_block_laid_out :
    let source := "if a:\n  b = 1\n \n  # so far\n  c = (b +\n2)\n"
    let indented := [' ', '\t'] ++
      source.toList.flatMap fun c => if c = '\n' then '\n' :: [' ', '\t'] else [c]
    ∃ program, Program.parse {} source = .ok program ∧
      Program.parse {} (String.ofList indented) = .ok program ∧
      Program.parse {} (String.ofList (Text.withReturns source.toList)) = .ok program := by
  intro source indented
  have hread : (Program.parse {} source).isOk := by decide +kernel
  have htext : (String.ofList indented).toList = indented := String.toList_ofList
  have hindented : Text.Indented [' ', '\t'] source.toList (String.ofList indented).toList := by
    rw [htext]
    exact Text.indented_flatMap [' ', '\t'] source.toList
  have hblank : ∀ line ∈ Text.lines source.toList, Text.isBlankLine line = true →
      ∀ c ∈ line, Text.isIndent c = true := by
    have hlines : (Text.lines source.toList).all
        (fun line => !Text.isBlankLine line || line.all Text.isIndent) = true := by decide +kernel
    simpa [or_iff_not_imp_left] using hlines
  have hbefore : ∀ c ∈ [' ', '\t'], Text.isIndent c = true := List.all_eq_true.mp rfl
  obtain ⟨hsame, hreturns⟩ := @Program.parse_ignores_layout {} source
    (by decide +kernel) hblank (by decide +kernel) (by decide +kernel)
  cases hparse : Program.parse {} source with
  | error error =>
      rw [hparse] at hread
      cases hread
  | ok program =>
      exact ⟨program, rfl,
        (hsame [' ', '\t'] _ hbefore hindented (by decide +kernel) program).mp hparse,
        (hreturns (by decide +kernel) program).mp hparse⟩

end SchemaGuard
