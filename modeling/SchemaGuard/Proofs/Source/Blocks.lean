import SchemaGuard.Proofs.Source.Scanning
import Mathlib

/-! # Blocks in the stream of tokens

The marks that open and close blocks match, line ends stand only behind something on a line, and the
end of the stream is marked once. All of this holds for the tokens read so far, where as many blocks
are open as there are widths in the state; the widths grow from the margin inwards.
-/

namespace SchemaGuard.Lexer

open Outcome

/-! ## Streams of tokens -/

/-- Tokens in which no block is closed before it is opened, no two line ends follow one another, and
none comes first. -/
structure Orderly (tokens : List Token) : Prop where
  closes : ∀ part, part <+: tokens → part.count .dedent ≤ part.count .indent
  apart : tokens.IsChain fun earlier later => earlier ≠ .newline ∨ later ≠ .newline
  begins : tokens.head? ≠ some .newline

/-- Tokens that are in order up to their only end mark, where all blocks are closed. -/
structure WellBracketed (tokens : List Token) : Prop extends Orderly tokens where
  ends : ∃ body, tokens = body ++ [.eof] ∧ .eof ∉ body
  balanced : tokens.count .indent = tokens.count .dedent

namespace Orderly

variable {tokens : List Token}

theorem nil : Orderly [] := by
  refine ⟨fun part hpart => ?_, .nil, by simp⟩
  rw [List.prefix_nil.mp hpart]
  exact Nat.le_refl _

/-- A mark that closes a block needs an open one, and a line end something to end. -/
theorem concat {token : Token} (htokens : Orderly tokens)
    (hdedent : token = .dedent → tokens.count .dedent < tokens.count .indent)
    (hnewline : token = .newline → ∃ last, tokens.getLast? = some last ∧ last ≠ .newline) :
    Orderly (tokens ++ [token]) := by
  refine ⟨fun part hpart => ?_, ?_, ?_⟩
  · rcases List.prefix_concat_iff.mp hpart with rfl | hpart
    · have hbefore := htokens.closes tokens List.prefix_rfl
      rw [List.count_append, List.count_append]
      by_cases htoken : token = .dedent
      · subst htoken
        exact Nat.le_trans (hdedent rfl) (Nat.le_add_right _ _)
      · rw [List.count_singleton, if_neg (by simpa using htoken)]
        exact Nat.le_trans hbefore (Nat.le_add_right _ _)
    · exact htokens.closes part hpart
  · refine List.isChain_append.mpr ⟨htokens.apart, .singleton _, ?_⟩
    intro last hlast first hfirst
    cases hfirst
    by_cases htoken : token = .newline
    · obtain ⟨found, hfound, hother⟩ := hnewline htoken
      cases hfound.symm.trans hlast
      exact .inl hother
    · exact .inr htoken
  · cases tokens with
    | nil =>
        intro hfirst
        cases hfirst
        obtain ⟨last, hlast, -⟩ := hnewline rfl
        cases hlast
    | cons first rest => exact htokens.begins

theorem concat_inline {token : Token} (htokens : Orderly tokens) (hdedent : token ≠ .dedent)
    (hnewline : token ≠ .newline) : Orderly (tokens ++ [token]) :=
  htokens.concat (fun heq => absurd heq hdedent) fun heq => absurd heq hnewline

/-- All open blocks may be closed. -/
theorem append_dedents (htokens : Orderly tokens) {count : Nat}
    (hcount : tokens.count .dedent + count ≤ tokens.count .indent) :
    Orderly (tokens ++ List.replicate count .dedent) := by
  induction count with
  | zero => rwa [List.replicate_zero, List.append_nil]
  | succ count ih =>
      rw [List.replicate_succ', ← List.append_assoc]
      refine (ih (by omega)).concat (fun _ => ?_) nofun
      rw [List.count_append, List.count_append, List.count_replicate_self,
        List.count_replicate, if_neg (by decide)]
      omega

end Orderly

/-! ## Tokens and open blocks -/

/-- Tokens before the end of a stream, and the widths of the blocks that they leave open, from the
inside out. -/
structure Bracketed (tokens : List Token) (indents : List Nat) : Prop where
  orderly : Orderly tokens
  unended : .eof ∉ tokens
  opened : tokens.count .indent + 1 = tokens.count .dedent + indents.length
  margin : indents.getLast? = some 0
  decreasing : indents.Pairwise (· > ·)

namespace Bracketed

variable {tokens : List Token} {indents rest : List Nat} {top width : Nat}

theorem start : Bracketed [] [0] :=
  ⟨.nil, List.not_mem_nil, rfl, rfl, List.pairwise_singleton _ _⟩

theorem indent (htokens : Bracketed tokens indents) (hwidth : indents.head?.getD 0 < width) :
    Bracketed (tokens ++ [.indent]) (width :: indents) := by
  obtain ⟨horderly, hunended, hopened, hmargin, hdecreasing⟩ := htokens
  refine ⟨horderly.concat_inline (by decide) (by decide), by simp [hunended], ?_, ?_, ?_⟩
  · simp [List.count_append]
    omega
  · rw [List.getLast?_cons, hmargin]
    rfl
  · cases indents with
    | nil => cases hmargin
    | cons top rest =>
        have htop : top < width := hwidth
        refine List.pairwise_cons.mpr ⟨fun inner hinner => ?_, hdecreasing⟩
        rcases List.mem_cons.mp hinner with rfl | hinner
        · exact htop
        · exact Nat.lt_trans ((List.pairwise_cons.mp hdecreasing).1 inner hinner) htop

theorem dedent (htokens : Bracketed tokens (top :: rest)) (htop : 0 < top) :
    Bracketed (tokens ++ [.dedent]) rest := by
  obtain ⟨horderly, hunended, hopened, hmargin, hdecreasing⟩ := htokens
  cases rest with
  | nil =>
      -- The block without indentation is never closed.
      cases hmargin
      cases htop
  | cons next rest =>
      rw [List.length_cons, List.length_cons] at hopened
      refine ⟨horderly.concat (fun _ => by omega) nofun, by simp [hunended], ?_, hmargin,
        hdecreasing.of_cons⟩
      simp [List.count_append]
      omega

/-- Tokens of other kinds leave the blocks alone. -/
theorem concat {token : Token} (htokens : Bracketed tokens indents)
    (horderly : Orderly (tokens ++ [token])) (htoken : token ∉ [.indent, .dedent, .eof]) :
    Bracketed (tokens ++ [token]) indents := by
  simp only [List.mem_cons, List.not_mem_nil, or_false, not_or] at htoken
  obtain ⟨hindent, hdedent, heof⟩ := htoken
  refine ⟨horderly, ?_, ?_, htokens.margin, htokens.decreasing⟩
  · simp [htokens.unended, Ne.symm heof]
  · rw [List.count_append, List.count_append, List.count_singleton, List.count_singleton,
      if_neg (by simpa using hindent), if_neg (by simpa using hdedent)]
    exact htokens.opened

theorem inline {token : Token} (htokens : Bracketed tokens indents)
    (htoken : token.isInline = true) : Bracketed (tokens ++ [token]) indents := by
  have hother : token ∉ [.newline, .indent, .dedent, .eof] := by
    simp only [List.mem_cons, List.not_mem_nil, or_false]
    rintro (rfl | rfl | rfl | rfl) <;> cases htoken
  rw [List.mem_cons, not_or] at hother
  obtain ⟨hnewline, hother⟩ := hother
  refine htokens.concat (htokens.orderly.concat_inline ?_ hnewline) hother
  rintro rfl
  cases htoken

/-- One mark for each open block closes them all. -/
theorem finish {widths : List Nat} (htokens : Bracketed tokens (widths ++ [0])) :
    WellBracketed (tokens ++ List.replicate widths.length .dedent ++ [.eof]) := by
  have hopened := htokens.opened
  rw [List.length_append, List.length_singleton] at hopened
  have hclosed : Orderly (tokens ++ List.replicate widths.length .dedent) :=
    htokens.orderly.append_dedents (by omega)
  refine ⟨hclosed.concat_inline (by decide) (by decide), ⟨_, rfl, ?_⟩, ?_⟩
  · simp [htokens.unended, List.mem_replicate]
  · simp [List.count_append, List.count_replicate]
    omega

/-- The widths from the outside in, or the first of them, begin at the margin and grow. -/
theorem increasing (htokens : Bracketed tokens indents) {left : List Nat}
    (hleft : left <+: indents.reverse) (hne : left ≠ []) :
    left.head? = some 0 ∧ left.Pairwise (· < ·) := by
  have hmargin : indents.reverse.head? = some 0 := by rw [List.head?_reverse, htokens.margin]
  have hpairs : indents.reverse.Pairwise (· < ·) := List.pairwise_reverse.mpr htokens.decreasing
  refine ⟨?_, hpairs.sublist hleft.sublist⟩
  obtain ⟨inner, hinner⟩ := hleft
  rwa [← hinner, List.head?_append_of_ne_nil _ hne] at hmargin

end Bracketed

/-! ## Tokens of a state -/

namespace State

variable {state next : State}

/-- The tokens that have been read. -/
def soFar (state : State) : List Token :=
  (state.lexemes.map Lexeme.token).reverse

/-- The widths of the open blocks, from the outside in. -/
def margins (state : State) : List Nat :=
  state.indents.reverse

@[simp] theorem soFar_push (state : State) (token : Token) :
    (state.push token).soFar = state.soFar ++ [token] := by
  simp [soFar, push]

theorem bracketed_pushNewline (hstate : Bracketed state.soFar state.indents) :
    Bracketed state.pushNewline.soFar state.pushNewline.indents := by
  unfold pushNewline
  split
  next => exact hstate
  next last rest hlexemes =>
    split
    next => exact hstate
    next hlast =>
      have hfound : state.soFar.getLast? = some last.token := by simp [soFar, hlexemes]
      rw [soFar_push]
      exact hstate.concat (hstate.orderly.concat nofun fun _ => ⟨_, hfound, hlast⟩) (by decide)

theorem bracketed_nextLine (hstate : Bracketed state.soFar state.indents) :
    Bracketed state.nextLine.soFar state.nextLine.indents := by
  unfold nextLine
  split
  · exact bracketed_pushNewline hstate
  · exact hstate

/-- Every change keeps the blocks matched. -/
theorem Change.bracketed (hchange : Change state next)
    (hstate : Bracketed state.soFar state.indents) : Bracketed next.soFar next.indents := by
  cases hchange with
  | begun | joined => exact hstate
  | indent hwidth =>
      rw [soFar_push]
      exact hstate.indent hwidth
  | dedent hindents htop =>
      rw [hindents] at hstate
      rw [soFar_push]
      exact hstate.dedent htop
  | lineEnd => exact bracketed_nextLine hstate
  | token htoken =>
      rw [accept_eq]
      have hpushed := hstate.inline htoken
      rw [← soFar_push] at hpushed
      exact hpushed

theorem Becomes.bracketed (hbecomes : Becomes {} state) : Bracketed state.soFar state.indents :=
  hbecomes.keeps (fun state => Bracketed state.soFar state.indents) Change.bracketed .start

/-- At the end of a source a line end is added, and one mark for each open block. -/
theorem finish_tokens {widths : List Nat} (hindents : state.pushNewline.indents = widths ++ [0]) :
    state.finish.map Lexeme.token =
      state.pushNewline.soFar ++ List.replicate widths.length .dedent ++ [.eof] := by
  unfold finish
  dsimp only
  rw [hindents, push, List.reverse_cons, closeAll_lexemes, List.reverse_append, dedents,
    List.reverse_replicate]
  simp [soFar]

theorem finish_wellBracketed (hstate : Bracketed state.soFar state.indents) :
    WellBracketed (state.finish.map Lexeme.token) := by
  have hended := bracketed_pushNewline hstate
  obtain ⟨widths, hindents⟩ := List.getLast?_eq_some_iff.mp hended.margin
  rw [finish_tokens hindents]
  rw [hindents] at hended
  exact hended.finish

end State

/-! ## States of a run -/

/-- The states in which reading a source arrives, with what is left of the source: those between two
steps, and those within a step where the layout of a line has been settled. -/
inductive Passes (source : List Char) : State → List Char → Prop
  | start : Passes source {} source
  | layout {state next : State} {text rest : List Char} (hpasses : Passes source state text)
      (hline : state.atLineStart = true ∧ state.brackets = 0)
      (hstart : startLine state text = .ok (next, rest)) : Passes source next rest
  | step {state next : State} {text rest : List Char} (hpasses : Passes source state text)
      (hstep : step state text = .ok (next, rest)) : Passes source next rest

theorem Passes.becomes {source text : List Char} {state : State}
    (hpasses : Passes source state text) : State.Becomes {} state := by
  induction hpasses with
  | start => exact .refl
  | @layout state next text rest _ hline hstart ih =>
      have hsettle : settleLine state text = .ok (next, rest) := by
        rw [settleLine, if_pos hline, hstart]
      exact ih.trans (State.settleLine_becomes hsettle)
  | step _ hstep ih => exact ih.trans (State.step_becomes hstep)

/-- What a source is read to is well bracketed. On the way, whether reading comes to an end or not,
the open blocks are wider from the outside in and begin at the margin, and so are those that are
left while some of them are closed. -/
theorem lexemes_wellBracketed (source : String) :
    (∀ tokens, lexemes source = .ok tokens → WellBracketed (tokens.map Lexeme.token)) ∧
      ∀ state text, Passes source.toList state text → ∀ left, left <+: state.margins → left ≠ [] →
        left.head? = some 0 ∧ left.Pairwise (· < ·) := by
  constructor
  · intro tokens htokens
    obtain ⟨final, hscan, rfl⟩ := map_eq_ok.mp htokens
    exact State.finish_wellBracketed (State.scan_becomes hscan).bracketed
  · intro state text hpasses left hleft hne
    exact hpasses.becomes.bracketed.increasing hleft hne

/-- A source with a comment, a blank line, a carriage return and a closing bracket too many, which
ends within two blocks. -/
theorem open_blocks_wellBracketed :
    let tokens : List Token := [.ifWord, .identifier "a", .colon, .newline, .indent, .ifWord,
      .identifier "b", .colon, .newline, .indent, .passWord, .rightParen, .newline, .dedent,
      .dedent, .eof]
    (lexemes "if a:\n\tif b:\r\n# c\n\n     pass)").map (·.map Lexeme.token) = .ok tokens ∧
      WellBracketed tokens := by
  intro tokens
  have hread : (lexemes "if a:\n\tif b:\r\n# c\n\n     pass)").map (·.map Lexeme.token) =
      .ok tokens := by
    cbv
  obtain ⟨found, hfound, htokens⟩ := map_eq_ok.mp hread
  refine ⟨hread, ?_⟩
  rw [← htokens]
  exact (lexemes_wellBracketed _).1 found hfound

end SchemaGuard.Lexer
