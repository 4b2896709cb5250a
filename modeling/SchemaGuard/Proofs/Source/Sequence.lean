import SchemaGuard.Proofs.Source.Scanning

/-! # Sources that follow one another

Two sources, one on the lines after the other, make up the program of the first followed by
the program of the second when the second begins without indentation: nothing that the first
says can enclose the second, join it or skip it.
-/

namespace SchemaGuard

open Outcome

namespace Text

/-! ## Indentation -/

theorem foldl_min_le {widths : List Nat} {first width : Nat} (hwidth : width ∈ first :: widths) :
    widths.foldl min first ≤ width := by
  induction widths generalizing first width with
  | nil => exact Nat.le_of_eq (List.mem_singleton.mp hwidth).symm
  | cons next rest ih =>
      have hfirst := ih (List.mem_cons_self (a := min first next))
      obtain rfl | hwidth := List.mem_cons.mp hwidth
      · exact Nat.le_trans hfirst (Nat.min_le_left _ _)
      · obtain rfl | hwidth := List.mem_cons.mp hwidth
        · exact Nat.le_trans hfirst (Nat.min_le_right _ _)
        · exact ih (List.mem_cons_of_mem _ hwidth)

theorem commonIndent_le {text line : List Char} (hline : line ∈ lines text)
    (hblank : isBlankLine line = false) : commonIndent text ≤ indentWidth line := by
  have hwidth : indentWidth line ∈
      ((lines text).filter fun line => !isBlankLine line).map indentWidth :=
    List.mem_map.mpr ⟨line, List.mem_filter.mpr ⟨hline, by simp [hblank]⟩, rfl⟩
  unfold commonIndent
  split
  next => exact Nat.zero_le _
  next first rest hwidths => exact foldl_min_le (hwidths ▸ hwidth)

/-- A text with a line that is not indented stays as it is. -/
theorem dedent_eq {text line : List Char} (hline : line ∈ lines text)
    (hblank : isBlankLine line = false) (hwidth : indentWidth line = 0) : dedent text = text := by
  have hcommon : commonIndent text = 0 :=
    Nat.eq_zero_of_le_zero (hwidth ▸ commonIndent_le hline hblank)
  rw [dedent, hcommon]
  rfl

theorem mem_linesFrom_followed {line rest : List Char} (hline : line ∈ lines rest)
    (opened text : List Char) : line ∈ linesFrom opened (text ++ '\n' :: rest) := by
  induction text generalizing opened with
  | nil =>
      rw [List.nil_append, linesFrom, if_pos rfl]
      exact List.mem_cons_of_mem _ hline
  | cons c text ih =>
      rw [List.cons_append, linesFrom]
      split
      · exact List.mem_cons_of_mem _ (ih [])
      · exact ih (c :: opened)

theorem mem_lines_followed {line rest : List Char} (hline : line ∈ lines rest)
    (text : List Char) : line ∈ lines (text ++ '\n' :: rest) :=
  mem_linesFrom_followed hline [] text

end Text

namespace Parser

theorem settle_eq_ok {α : Type} {outcome : Except Halt α} {a : α} :
    settle outcome = .ok a ↔ outcome = .ok a := by
  unfold settle
  split <;> simp

theorem InStep.length_eq {ends : Ends} {within : Bool} {brackets blocks : Nat}
    {tokens tokens' : List Lexeme} (htokens : InStep ends within brackets blocks tokens tokens') :
    tokens'.length + ends.first.length = tokens.length + ends.second.length := by
  induction htokens with
  | done => exact Nat.add_comm _ _
  | inline | newline | indent | dedent =>
      simp only [List.length_cons]
      omega

theorem apart_eof (line : Nat) : Apart [⟨.eof, line⟩] := by
  simp [Apart]

end Parser

open SchemaGuard.Lexer SchemaGuard.Parser

/-- What the reading of a source comes to. -/
theorem Program.parse_eq_ok {limits : ParseLimits} {source : String} {program : Program} :
    Program.parse limits source = .ok program ↔
      ∃ final, (String.ofList (Text.dedent source.toList)).utf8ByteSize ≤ limits.maxLength ∧
        scan {} (Text.dedent source.toList) = .ok final ∧
        Parser.program limits (budget final.finish) (skipNewlines final.finish) = .ok program := by
  unfold Program.parse Parser.tokens Lexer.lexemes
  dsimp only
  rw [String.toList_ofList]
  constructor
  · intro hparse
    obtain ⟨tokens, htokens, hprogram⟩ := bind_eq_ok.mp hparse
    split at htokens
    next => cases htokens
    next hlength =>
      obtain ⟨final, hscan, rfl⟩ := map_eq_ok.mp htokens
      exact ⟨final, Nat.le_of_not_lt hlength, hscan, settle_eq_ok.mp hprogram⟩
  · rintro ⟨final, hlength, hscan, hprogram⟩
    rw [if_neg (Nat.not_lt.mpr hlength), hscan]
    exact settle_eq_ok.mpr hprogram

/-- A source that stands at the margin is read from its own characters. -/
theorem Program.parse_of_scan {limits : ParseLimits} {source : String} {program : Program}
    (hdedent : Text.dedent source.toList = source.toList)
    (hlength : source.utf8ByteSize ≤ limits.maxLength)
    (hread : ∃ final, scan {} source.toList = .ok final ∧
      Parser.program limits (budget final.finish) (skipNewlines final.finish) = .ok program) :
    Program.parse limits source = .ok program := by
  obtain ⟨final, hscan, hprogram⟩ := hread
  refine Program.parse_eq_ok.mpr ⟨final, ?_, ?_, hprogram⟩
  · rwa [hdedent, String.ofList_toList]
  · rwa [hdedent]

namespace Lexer

theorem State.finish_length_pos (state : State) : 0 < state.finish.length := by
  simp [State.finish, State.push]

/-- A text at the beginning of a line that is scanned to certain tokens, which depend on the line
and not on what stands before it. -/
def ScansTo (text : List Char) (tokens : Nat → List Lexeme) : Prop :=
  ∀ line lexemes, ∃ final, scan ⟨line, 0, [0], true, lexemes⟩ text = .ok final ∧
    final.finish = lexemes.reverse ++ tokens line

theorem ScansTo.length_pos {text : List Char} {tokens : Nat → List Lexeme}
    (htokens : ScansTo text tokens) (line : Nat) : 0 < (tokens line).length := by
  obtain ⟨final, _, hfinish⟩ := htokens line []
  rw [List.reverse_nil, List.nil_append] at hfinish
  rw [← hfinish]
  exact final.finish_length_pos

end Lexer

/-- A source that is read by itself leaves no bracket open. -/
theorem Program.brackets_closed {limits : ParseLimits} {text : List Char} {final : State}
    (hscan : scan {} text = .ok final) {fuel : Nat} {program : Program}
    (hprogram : Parser.program limits fuel (skipNewlines final.finish) = .ok program) :
    final.brackets = 0 := by
  let ends : Ends :=
    ⟨final.brackets, [⟨.eof, final.line⟩], [⟨.eof, final.line⟩], apart_eof _, apart_eof _⟩
  have hstart : State.LaidOut ends {} := State.laidOut_start
  obtain ⟨widths, hindents, hleads⟩ := hstart.scan hscan
  have htokens := State.finish_inStep hindents hleads rfl rfl final.line
  obtain ⟨hbrackets, _⟩ : 0 = ends.brackets ∧ ∃ left, Parser.program limits (0 + fuel) _ =
      (Parser.program limits (0 + left) ends.second).map _ :=
    program_inStep rfl fuel htokens.skipNewlines hprogram
  exact hbrackets.symm

/-- The program of a source and of a text on the lines after it is the program of the source,
followed by what is read from the text. -/
theorem Program.parse_followed {limits : ParseLimits} {source : String} {before : Program}
    (hsource : Program.parse limits source = .ok before) {text : List Char}
    {tokens : Nat → List Lexeme} (htext : beginsLine text = true) (htokens : ScansTo text tokens)
    (hapart : ∀ line, Apart (tokens line)) (hline : ∃ line ∈ Text.lines text,
      Text.isBlankLine line = false ∧ Text.indentWidth line = 0) :
    ∃ line fuel, 16 * (tokens line).length ≤ fuel + 16 ∧ ∀ whole,
      Program.parse limits (String.ofList (Text.dedent source.toList ++ '\n' :: text)) = .ok whole ↔
        (String.ofList (Text.dedent source.toList ++ '\n' :: text)).utf8ByteSize ≤
          limits.maxLength ∧
        ∃ after, Parser.program limits fuel (tokens line) = .ok after ∧
          whole = before ++ after := by
  obtain ⟨final, _, hscan, hbefore⟩ := Program.parse_eq_ok.mp hsource
  obtain ⟨line, hmem, hblank, hwidth⟩ := hline
  have hdedent := Text.dedent_eq (Text.mem_lines_followed hmem (Text.dedent source.toList)) hblank
    hwidth
  have hbrackets := Program.brackets_closed hscan hbefore
  -- The first reading ends with the source, the second goes on with the tokens of the text.
  let ends : Ends :=
    ⟨0, [⟨.eof, final.line⟩], tokens (final.line + 1), apart_eof _, hapart _⟩
  obtain ⟨lexemes, hfollowed, hinStep⟩ : ∃ lexemes, _ ∧ InStep ends false 0 0 _ _ :=
    scan_followed hscan hbrackets rfl rfl htext
  obtain ⟨finish, hfinish, hlexemes⟩ := htokens (final.line + 1) lexemes
  rw [hfinish] at hfollowed
  -- The longer source has the larger budget, by 16 for each token of the text.
  have hbudget : budget (lexemes.reverse ++ tokens (final.line + 1)) =
      16 * ((tokens (final.line + 1)).length - 1) + budget final.finish := by
    have hlength := hinStep.length_eq
    have hpos := htokens.length_pos (final.line + 1)
    simp only [ends, List.length_singleton] at hlength
    unfold budget
    omega
  obtain ⟨_, left, hleft⟩ := program_inStep rfl _ hinStep.skipNewlines hbefore
  refine ⟨final.line + 1, 16 * ((tokens (final.line + 1)).length - 1) + left, by omega,
    fun whole => ?_⟩
  rw [Program.parse_eq_ok, String.toList_ofList, hdedent, hfollowed]
  constructor
  · rintro ⟨last, hlength, hlast, hprogram⟩
    cases hlast
    rw [hlexemes, hbudget, hleft] at hprogram
    obtain ⟨after, hafter, rfl⟩ := map_eq_ok.mp hprogram
    exact ⟨hlength, after, hafter, rfl⟩
  · rintro ⟨hlength, after, hafter, rfl⟩
    refine ⟨finish, hlength, rfl, ?_⟩
    rw [hlexemes, hbudget, hleft]
    exact map_eq_ok.mpr ⟨after, hafter, rfl⟩

end SchemaGuard
