import SchemaGuard.Proofs.Source.Budget
import SchemaGuard.Proofs.Source.Sequence

/-! # Sources before others

A source that is read with another one on the lines after it is read by itself too. Only the
end of its last line decides: a backslash there joins the line to the next one, and there is no
next line when the source stands alone.
-/

namespace SchemaGuard

open Outcome

namespace Lexer

/-! ## Tokens that a line end does not complete -/

section

variable {after : List Char}

theorem readNumber_before {line : Nat} {text : List Char} {read : Token × List Char}
    (hread : readNumber line (text ++ '\n' :: after) = .ok read) :
    ∃ read', readNumber line text = .ok read' := by
  unfold readNumber at hread ⊢
  rw [numeralText_line] at hread
  dsimp only at hread ⊢
  split at hread
  next token htoken => exact ⟨_, by rw [htoken]⟩
  next => cases hread

/-- A string does not go on after the end of its line. -/
theorem stringBody_before {raw : Bool} {quote : Char} (hquote : quote ≠ '\n') {escaped : Bool}
    {text : List Char} {read : List Char × List Char}
    (hbody : stringBody raw quote escaped (text ++ '\n' :: after) = .ok read) :
    ∃ read', stringBody raw quote escaped text = .ok read' := by
  fun_induction stringBody raw quote escaped text generalizing read with
  | case1 escaped =>
      cases escaped with
      | false => simp [stringBody, hquote.symm] at hbody
      | true => simp [stringBody, unescape?] at hbody
  | case2 c rest hescape =>
      rw [List.cons_append, stringBody, hescape] at hbody
      cases hbody
  | case3 c rest d hescape ih =>
      rw [List.cons_append, stringBody, hescape] at hbody
      obtain ⟨inner, hinner, _⟩ := map_eq_ok.mp hbody
      obtain ⟨read', hread'⟩ := ih hinner
      exact ⟨_, by rw [hread']; rfl⟩
  | case4 => exact ⟨_, rfl⟩
  | case5 c rest hc hline =>
      rw [List.cons_append, stringBody, if_neg hc, if_pos hline] at hbody
      cases hbody
  | case6 c rest hc hline hescape ih =>
      rw [List.cons_append, stringBody, if_neg hc, if_neg hline, if_pos hescape] at hbody
      exact ih hbody
  | case7 c rest hc hline hescape ih =>
      rw [List.cons_append, stringBody, if_neg hc, if_neg hline, if_neg hescape] at hbody
      obtain ⟨inner, hinner, _⟩ := map_eq_ok.mp hbody
      obtain ⟨read', hread'⟩ := ih hinner
      exact ⟨_, by rw [hread']; rfl⟩

theorem readString_before {line : Nat} {raw : Bool} {quote : Char}
    (hquote : quote = '"' ∨ quote = '\'') {text : List Char} {read : Token × List Char}
    (hread : readString line raw quote (text ++ '\n' :: after) = .ok read) :
    ∃ read', readString line raw quote text = .ok read' := by
  have hline : quote ≠ '\n' := by
    obtain rfl | rfl := hquote <;> decide
  unfold readString at hread ⊢
  split at hread
  next hbody =>
    obtain ⟨⟨body, rest⟩, hbody'⟩ := stringBody_before hline hbody
    exact ⟨_, by rw [hbody']⟩
  next => cases hread

theorem readWord_before {line : Nat} {text : List Char} {read : Token × List Char}
    (hread : readWord line (text ++ '\n' :: after) = .ok read) :
    ∃ read', readWord line text = .ok read' := by
  have hend : isNameChar '\n' = false := by decide
  unfold readWord at hread ⊢
  rw [takeWhile_line hend, dropWhile_line hend] at hread
  dsimp only at hread ⊢
  cases hrest : text.dropWhile isNameChar with
  | nil => exact ⟨_, rfl⟩
  | cons c rest =>
      rw [hrest, List.cons_append] at hread
      dsimp only at hread ⊢
      split at hread
      next hquote =>
        rw [if_pos hquote]
        exact readString_before hquote.1 hread
      next hplain =>
        rw [if_neg hplain]
        split at hread
        next hquote =>
          rw [if_pos hquote]
          exact readString_before hquote.1 hread
        next hplain =>
          rw [if_neg hplain]
          exact ⟨_, rfl⟩

/-- Nor does a path. -/
theorem readPath_before {line : Nat} {text : List Char} {read : Token × List Char}
    (hread : readPath line (text ++ '\n' :: after) = .ok read) :
    ∃ read', readPath line text = .ok read' := by
  have htake : (text ++ '\n' :: after).takeWhile (fun c => c != '\x7d' && c != '\n') =
      text.takeWhile (fun c => c != '\x7d' && c != '\n') := takeWhile_line (by decide) text
  have hdrop : (text ++ '\n' :: after).dropWhile (fun c => c != '\x7d' && c != '\n') =
      text.dropWhile (fun c => c != '\x7d' && c != '\n') ++ '\n' :: after :=
    dropWhile_line (by decide) text
  unfold readPath at hread ⊢
  simp only [htake, hdrop] at hread
  dsimp only at hread ⊢
  cases hrest : text.dropWhile (fun c => c != '\x7d' && c != '\n') with
  | nil =>
      rw [hrest] at hread
      cases hread
  | cons c rest =>
      rw [hrest, List.cons_append] at hread
      split at hread
      next hclose =>
        cases hclose
        split at hread
        next hparts => exact ⟨_, if_pos hparts⟩
        next => cases hread
      next => cases hread

theorem sign?_before {c : Char} {text : List Char} {read : Token × List Char}
    (hsign : sign? c (text ++ '\n' :: after) = some read) : ∃ read', sign? c text = some read' := by
  unfold sign? at hsign ⊢
  split at hsign <;> first
    | exact ⟨_, rfl⟩
    | (cases text with
       | nil => cases hsign
       | cons d rest =>
           rw [List.cons_append] at hsign
           split at hsign
           next heq =>
             cases heq
             exact ⟨_, rfl⟩
           next => cases hsign)
    | cases hsign

theorem readToken_before {line : Nat} {c : Char} {text : List Char} {read : Token × List Char}
    (hread : readToken line c (text ++ '\n' :: after) = .ok read) :
    ∃ read', readToken line c text = .ok read' := by
  unfold readToken at hread ⊢
  split at hread
  next hc =>
    rw [if_pos hc]
    exact readString_before hc hread
  next hc =>
    rw [if_neg hc]
    split at hread
    next hc =>
      rw [if_pos hc]
      exact readNumber_before hread
    next hc =>
      rw [if_neg hc]
      split at hread
      next hc =>
        rw [if_pos hc]
        exact readPath_before hread
      next hc =>
        rw [if_neg hc]
        split at hread
        next hc =>
          rw [if_pos hc]
          exact readWord_before hread
        next hc =>
          rw [if_neg hc]
          split at hread
          next hsign =>
            obtain ⟨read', hsign'⟩ := sign?_before hsign
            exact ⟨read', by rw [hsign']⟩
          next => cases hread

/-! ## Lines that are joined to the next one -/

/-- A backslash at the end of a text, with at most a carriage return after it. -/
def JoinsOn (text : List Char) : Prop :=
  ['\\'] <:+ text ∨ ['\\', '\r'] <:+ text

theorem JoinsOn.of_suffix {text rest : List Char} (hrest : JoinsOn rest) (hsuffix : rest <:+ text) :
    JoinsOn text :=
  hrest.imp (·.trans hsuffix) (·.trans hsuffix)

/-- Only a backslash at the end of a text needs the line end after it. -/
theorem joinLine_before {state : State} {text : List Char} {read : State × List Char}
    (hjoin : joinLine state (text ++ '\n' :: after) = .ok read) :
    (∃ read', joinLine state text = .ok read') ∨
      JoinsOn ('\\' :: text) ∧ joinLine state text = .error (.unexpectedChar '\\' state.line) := by
  cases text with
  | nil => exact .inr ⟨.inl List.suffix_rfl, rfl⟩
  | cons c rest =>
      by_cases hreturn : c = '\r'
      · subst hreturn
        cases rest with
        | nil => exact .inr ⟨.inr List.suffix_rfl, rfl⟩
        | cons d rest =>
            by_cases hline : d = '\n'
            · subst hline
              exact .inl ⟨_, rfl⟩
            · simp [joinLine, hline] at hjoin
      · by_cases hline : c = '\n'
        · subst hline
          exact .inl ⟨_, rfl⟩
        · simp [joinLine, hreturn, hline] at hjoin

theorem takeOne_before {state : State} {c : Char} {text : List Char} {read : State × List Char}
    (htake : takeOne state c (text ++ '\n' :: after) = .ok read) :
    (∃ read', takeOne state c text = .ok read') ∨
      JoinsOn (c :: text) ∧ ∃ line, takeOne state c text = .error (.unexpectedChar '\\' line) := by
  unfold takeOne at htake ⊢
  split at htake
  next hc =>
    rw [if_pos hc]
    exact .inl ⟨_, rfl⟩
  next hc =>
    rw [if_neg hc]
    split at htake
    next hc =>
      rw [if_pos hc]
      exact .inl ⟨_, rfl⟩
    next hc =>
      rw [if_neg hc]
      split at htake
      next hc =>
        rw [if_pos hc]
        exact .inl ⟨_, rfl⟩
      next hc =>
        rw [if_neg hc]
        split at htake
        next hc =>
          subst hc
          exact (joinLine_before htake).imp id fun ⟨hjoins, herror⟩ => ⟨hjoins, _, herror⟩
        next hc =>
          obtain ⟨read, hread, _⟩ := map_eq_ok.mp htake
          obtain ⟨read', hread'⟩ := readToken_before hread
          rw [if_neg hc, hread']
          exact .inl ⟨_, rfl⟩

theorem startLine_before {state : State} {text : List Char} {read : State × List Char}
    (hstart : startLine state (text ++ '\n' :: after) = .ok read) :
    ∃ read', startLine state text = .ok read' := by
  unfold startLine at hstart ⊢
  rw [indentation_line] at hstart
  dsimp only at hstart ⊢
  rw [isBlankOrComment_line] at hstart
  split at hstart
  next hblank =>
    rw [if_pos hblank]
    exact ⟨_, rfl⟩
  next hblank =>
    obtain ⟨inner, hindent, _⟩ := map_eq_ok.mp hstart
    rw [if_neg hblank, hindent]
    exact ⟨_, rfl⟩

theorem settleLine_before {state : State} {text : List Char} {read : State × List Char}
    (hsettle : settleLine state (text ++ '\n' :: after) = .ok read) :
    ∃ read', settleLine state text = .ok read' := by
  unfold settleLine at hsettle ⊢
  split at hsettle
  next hstart =>
    rw [if_pos hstart]
    exact startLine_before hsettle
  next hstart =>
    rw [if_neg hstart]
    exact ⟨_, rfl⟩

theorem settleLine_suffix {state next : State} {text rest : List Char}
    (hsettle : settleLine state text = .ok (next, rest)) : rest <:+ text := by
  unfold settleLine at hsettle
  split at hsettle
  next => exact startLine_suffix hsettle
  next =>
    cases hsettle
    exact List.suffix_rfl

theorem step_before {state : State} {text : List Char} {read : State × List Char}
    (hstep : step state (text ++ '\n' :: after) = .ok read) :
    (∃ read', step state text = .ok read') ∨
      JoinsOn text ∧ ∃ line, step state text = .error (.unexpectedChar '\\' line) := by
  rw [step_eq] at hstep ⊢
  obtain ⟨_, hsettle, htake⟩ := bind_eq_ok.mp hstep
  obtain ⟨⟨inner, left⟩, hsettle'⟩ := settleLine_before hsettle
  rw [settleLine_line hsettle'] at hsettle
  cases hsettle
  rw [hsettle', ok_bind]
  cases left with
  | nil => exact .inl ⟨_, rfl⟩
  | cons c left =>
      exact (takeOne_before htake).imp id fun ⟨hjoins, herror⟩ =>
        ⟨hjoins.of_suffix (settleLine_suffix hsettle'), herror⟩

/-- A text that is scanned with more lines after it is scanned without them, unless its end joins
its last line to the next one. -/
theorem scan_before {state last : State} {text : List Char}
    (hscan : scan state (text ++ '\n' :: after) = .ok last) :
    (∃ final, scan state text = .ok final) ∨
      JoinsOn text ∧ ∃ line, scan state text = .error (.unexpectedChar '\\' line) := by
  fun_induction scan state text with
  | case1 => exact .inl ⟨_, rfl⟩
  | case2 state c rest failure hstep =>
      rw [List.cons_append, scan] at hscan
      split at hscan
      next => cases hscan
      next hstep' =>
        have hfirst : step state (c :: rest ++ '\n' :: after) = .ok _ := hstep'
        obtain ⟨read', hread'⟩ | ⟨hjoins, line, herror⟩ := step_before hfirst
        · cases hstep.symm.trans hread'
        · cases hstep.symm.trans herror
          exact .inr ⟨hjoins, line, rfl⟩
  | case3 state c rest next left hstep ih =>
      obtain hline | ⟨rfl, _⟩ := step_line hstep
      · rw [scan_append_line hline] at hscan
        rcases ih hscan with hfinal | ⟨hjoins, herror⟩
        · exact .inl hfinal
        · have hsuffix := (step_suffix hstep).trans (List.suffix_cons c rest)
          exact .inr ⟨hjoins.of_suffix hsuffix, herror⟩
      · exact .inl ⟨next, by rw [scan]⟩

/-- Within brackets a line end only adds to the count of lines. -/
theorem nextLine_open {state : State} (hbrackets : state.brackets ≠ 0) :
    state.nextLine = { state with line := state.line + 1 } := by
  rw [State.nextLine, if_neg hbrackets]

/-- A text that is scanned with brackets left open is followed by what stands on the next lines
within these brackets. -/
theorem scan_line_open {state final : State} {text : List Char}
    (hscan : scan state text = .ok final) (hbrackets : final.brackets ≠ 0) :
    ∃ start, scan state (text ++ '\n' :: after) =
      scan { final with line := final.line + 1, atLineStart := start } after := by
  fun_induction scan state text with
  | case1 =>
      cases hscan
      have hstep : step final ('\n' :: after) =
          .ok ({ final with line := final.line + 1, atLineStart := false }, after) := by
        rw [step_eq, settleLine, if_neg fun hstart => hbrackets hstart.2, ok_bind]
        exact congrArg (fun next => Except.ok (next, after)) (nextLine_open hbrackets)
      exact ⟨false, scan_cons hstep⟩
  | case2 => cases hscan
  | case3 state c rest next left hstep ih =>
      obtain hline | ⟨rfl, hline⟩ := step_line hstep
      · rw [scan_append_line hline]
        exact ih hscan
      · rw [scan_append_line hline]
        rw [scan] at hscan
        cases hscan
        exact ⟨final.atLineStart, by rw [nextLine_open hbrackets]⟩

end

/-- Within brackets it does not matter whether a line begins. -/
theorem scan_within {state : State} {text : List Char} (hbrackets : state.brackets ≠ 0)
    (htext : beginsLine text = true) :
    scan state text = scan { state with atLineStart := false } text := by
  obtain _ | ⟨c, rest⟩ := text
  · cases htext
  refine scan_congr ?_
  rw [step_eq, step_eq, settleLine, settleLine, if_neg fun hstart => hbrackets hstart.2,
    if_neg fun hstart => hbrackets hstart.2]

/-- A text that closes no more brackets than it opens, scanned within brackets. -/
def KeepsOpen (text : List Char) : Prop :=
  ∀ state last : State, scan state text = .ok last → state.brackets ≠ 0 → last.brackets ≠ 0

end Lexer

namespace Parser

/-! ## Programs before another end -/

/-- The same ends the other way round. -/
def Ends.swap (ends : Ends) : Ends :=
  ⟨ends.brackets, ends.second, ends.first, ends.second_apart, ends.first_apart⟩

theorem InStep.symm {ends : Ends} {within : Bool} {brackets blocks : Nat}
    {tokens tokens' : List Lexeme} (htokens : InStep ends within brackets blocks tokens tokens') :
    InStep ends.swap within brackets blocks tokens' tokens := by
  induction htokens with
  | done => exact .done
  | inline htoken _ ih => exact .inline htoken ih
  | newline _ ih => exact .newline ih
  | indent _ ih => exact .indent ih
  | dedent _ ih => exact .dedent ih

/-- The part of a program that stands before an end is a program by itself. -/
theorem program_before {limits : ParseLimits} {ends : Ends} {extra : Nat}
    (hend : current ends.second = .eof) : ∀ (fuel : Nat) {brackets : Nat}
    {tokens tokens' : List Lexeme} {whole : List Statement},
    InStep ends false brackets 0 tokens tokens' → program limits fuel tokens = .ok whole →
      ∃ before, program limits (extra + fuel) tokens' = .ok before
  | 0, _, _, _, _, _, hprogram => by
      rw [program] at hprogram
      cases hprogram
  | fuel + 1, brackets, tokens, tokens', whole, htokens, hprogram => by
      obtain htokens | ⟨rfl, _, rfl, rfl⟩ := htokens.within_or_done
      · have hcurrent := htokens.current_ne_eof
        rw [program_of_ne_eof fuel hcurrent] at hprogram
        obtain ⟨⟨first, rest⟩, hfirst, hprogram⟩ := bind_eq_ok.mp hprogram
        obtain ⟨others, hothers, _⟩ := bind_eq_ok.mp hprogram
        obtain ⟨⟨_, rest'⟩, hfirst', rfl, hrest⟩ := statement_inStep fuel 0 htokens _ hfirst
        dsimp only at hfirst' hrest
        obtain ⟨before, hbefore⟩ : ∃ before, program limits (extra + fuel) (skipNewlines rest') =
            .ok before := program_before hend fuel hrest.skipNewlines hothers
        refine ⟨first ++ before, ?_⟩
        rw [← Nat.add_assoc, program_of_ne_eof (extra + fuel) (htokens.current_eq ▸ hcurrent),
          hfirst']
        simp only [ok_bind, hbefore]
        rfl
      · rw [← Nat.add_assoc, program, hend]
        exact ⟨[], rfl⟩

end Parser

open SchemaGuard.Lexer SchemaGuard.Parser

theorem Program.parse_of_scan_error {limits : ParseLimits} {source : String} {error : ParseError}
    (hlength : (String.ofList (Text.dedent source.toList)).utf8ByteSize ≤ limits.maxLength)
    (hscan : scan {} (Text.dedent source.toList) = .error error) :
    Program.parse limits source = .error error := by
  unfold Program.parse Parser.tokens Lexer.lexemes
  dsimp only
  rw [String.toList_ofList, if_neg (Nat.not_lt.mpr hlength), hscan]
  rfl

/-- A source that is read with a text on the lines after it is read by itself, unless its end joins
its last line to the next one. -/
theorem Program.parse_before {limits : ParseLimits} {source : String} {text : List Char}
    {tokens : Nat → List Lexeme} (htext : beginsLine text = true) (htokens : ScansTo text tokens)
    (hopen : KeepsOpen text) (hapart : ∀ line, Apart (tokens line))
    (hline : ∃ line ∈ Text.lines text, Text.isBlankLine line = false ∧ Text.indentWidth line = 0)
    {whole : Program} (hwhole : Program.parse limits
      (String.ofList (Text.dedent source.toList ++ '\n' :: text)) = .ok whole) :
    (∃ before, Program.parse limits source = .ok before) ∨
      JoinsOn (Text.dedent source.toList) ∧
        ∃ line, Program.parse limits source = .error (.unexpectedChar '\\' line) := by
  obtain ⟨last, hlength, hscan, hprogram⟩ := Program.parse_eq_ok.mp hwhole
  obtain ⟨line, hmem, hblank, hwidth⟩ := hline
  rw [String.toList_ofList, Text.dedent_eq (Text.mem_lines_followed hmem _) hblank hwidth]
    at hlength hscan
  have hshort : (String.ofList (Text.dedent source.toList)).utf8ByteSize ≤ limits.maxLength := by
    rw [String.ofList_append, String.utf8ByteSize_append] at hlength
    omega
  obtain ⟨final, hfinal⟩ | ⟨hjoins, line, herror⟩ := scan_before hscan
  · left
    have hclosed := Program.brackets_closed hscan hprogram
    have hbrackets : final.brackets = 0 := by
      by_contra hbrackets
      obtain ⟨start, hrest⟩ : ∃ start, _ =
          scan { final with line := final.line + 1, atLineStart := start } text :=
        scan_line_open hfinal hbrackets
      rw [hrest] at hscan
      exact hopen _ last hscan hbrackets hclosed
    -- The tokens of both readings are in step up to the end of the source.
    let ends : Ends :=
      ⟨0, [⟨.eof, final.line⟩], tokens (final.line + 1), apart_eof _, hapart _⟩
    obtain ⟨lexemes, hfollowed, hinStep⟩ : ∃ lexemes, _ ∧ InStep ends false 0 0 _ _ :=
      scan_followed hfinal hbrackets rfl rfl htext
    obtain ⟨finish, hfinish, hlexemes⟩ := htokens (final.line + 1) lexemes
    rw [hfollowed, hfinish] at hscan
    cases hscan
    rw [← hlexemes] at hinStep
    obtain ⟨before, hbefore⟩ : ∃ before, program limits (0 + budget last.finish) _ = .ok before :=
      program_before rfl _ hinStep.symm.skipNewlines hprogram
    -- The larger budget of the longer source is not needed.
    have hbudget : 0 + budget last.finish =
        (budget last.finish - budget final.finish) + budget final.finish := by
      have hlengths := hinStep.length_eq
      have hpos := htokens.length_pos (final.line + 1)
      simp only [ends, List.length_singleton] at hlengths
      unfold budget
      omega
    rw [hbudget] at hbefore
    exact ⟨before, Program.parse_eq_ok.mpr ⟨final, hshort, hfinal, program_budget hbefore⟩⟩
  · exact .inr ⟨hjoins, line, Program.parse_of_scan_error hshort herror⟩

end SchemaGuard
