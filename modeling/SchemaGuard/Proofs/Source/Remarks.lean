import Mathlib.Data.List.TakeWhile
import SchemaGuard.Proofs.Blanks
import SchemaGuard.Proofs.Source.Layout
import SchemaGuard.Proofs.Source.Pieces
import SchemaGuard.Proofs.Source.Relining

/-! # Lines that say nothing

A blank line, or a line that holds only a comment, adds no token and leaves the blocks alone,
wherever a line may begin. A comment that is less indented than the lines around it is another
matter: it takes part in the indentation that is taken off every line.
-/

namespace SchemaGuard

open Outcome

namespace Text

/-! ## Remarks -/

/-- A character that is passed over between tokens. -/
def isSkipped (c : Char) : Bool :=
  c = ' ' || c = '\t' || c = '\r'

/-- A line that says nothing: of blanks only, or a comment after some indentation. -/
inductive IsRemark : List Char → Prop
  | blank {line : List Char} (hline : ∀ c ∈ line, isSkipped c = true) : IsRemark line
  | comment {indent text : List Char} (hindent : ∀ c ∈ indent, isIndent c = true)
      (htext : '\n' ∉ text) : IsRemark (indent ++ '#' :: text)

theorem isIndent_cases {c : Char} (hc : isIndent c = true) : c = ' ' ∨ c = '\t' := by
  simpa [isIndent] using hc

theorem isSkipped_cases {c : Char} (hc : isSkipped c = true) : c = ' ' ∨ c = '\t' ∨ c = '\r' := by
  simpa [isSkipped, or_assoc] using hc

variable {line : List Char}

theorem mem_of_mem_dropTrailing {p : Char → Bool} {c : Char} (hc : c ∈ dropTrailing p line) :
    c ∈ line := by
  rw [dropTrailing, List.mem_reverse] at hc
  exact List.mem_reverse.mp ((List.dropWhile_suffix p).mem hc)

theorem mem_of_mem_outdent {width : Nat} {c : Char} (hc : c ∈ outdent width line) : c ∈ line := by
  rw [outdent] at hc
  split at hc
  · exact hc
  · exact (dropBytes_suffix width line).mem (mem_of_mem_dropTrailing hc)

theorem dropTrailing_append {p : Char → Bool} {c : Char} (hc : p c = false)
    (before after : List Char) :
    dropTrailing p (before ++ c :: after) = before ++ c :: dropTrailing p after := by
  have hreverse : (before ++ c :: after).reverse = after.reverse ++ c :: before.reverse := by simp
  rw [dropTrailing, hreverse, List.dropWhile_append, dropTrailing]
  split
  next hnone =>
    rw [List.isEmpty_iff.mp hnone, List.dropWhile_cons, hc]
    simp
  next => simp

/-- Indentation is taken off from the start of a line that has as much of it. -/
theorem outdent_append {width : Nat} {indent : List Char}
    (hindent : ∀ c ∈ indent, isIndent c = true) (hwidth : width ≤ indent.length) {c : Char}
    (hc : c ≠ '\r') (text : List Char) : ∃ rest, (∀ d ∈ rest, d ∈ text) ∧
      outdent width (indent ++ c :: text) = indent.drop width ++ c :: rest := by
  have hcut : dropBytes width (indent ++ c :: text) = indent.drop width ++ c :: text := by
    have htake : ∀ d ∈ indent.take width, isIndent d = true :=
      fun d hd => hindent d (List.mem_of_mem_take hd)
    have hlength : (indent.take width).length = width := List.length_take_of_le hwidth
    have hdrop := dropBytes_indented htake 0 (indent.drop width ++ c :: text)
    rwa [Nat.add_zero, hlength, ← List.append_assoc, List.take_append_drop, dropBytes_zero] at hdrop
  rw [outdent, hcut]
  split
  next hzero => exact ⟨text, fun _ hd => hd, by rw [hzero, List.drop_zero]⟩
  next =>
    exact ⟨_, fun _ hd => mem_of_mem_dropTrailing hd, dropTrailing_append (by simpa using hc) _ _⟩

theorem isBlankLine_of_skipped (hline : ∀ c ∈ line, isSkipped c = true) :
    isBlankLine line = true := by
  refine List.all_eq_true.mpr ?_
  intro c hc
  rcases isSkipped_cases (hline c hc) with rfl | rfl | rfl <;> decide

theorem isBlankLine_comment (indent text : List Char) :
    isBlankLine (indent ++ '#' :: text) = false := by
  rw [isBlankLine, List.all_eq_false]
  exact ⟨'#', by simp, by decide⟩

theorem indentWidth_append {indent : List Char} (hindent : ∀ c ∈ indent, isIndent c = true)
    {c : Char} (hc : isIndent c = false) (text : List Char) :
    indentWidth (indent ++ c :: text) = indent.length := by
  rw [indentWidth, List.takeWhile_append_of_pos hindent, List.takeWhile_cons, hc]
  simp

/-- The character after the indentation of a line. -/
def opening? (line : List Char) : Option Char :=
  (line.dropWhile isIndent).head?

theorem opening?_eq_some {c : Char} (hopening : opening? line = some c) :
    isIndent c = false ∧
      ∃ indent text, line = indent ++ c :: text ∧ ∀ d ∈ indent, isIndent d = true := by
  have hhead := List.head?_dropWhile_not isIndent line
  have hsplit : line.takeWhile isIndent ++ line.dropWhile isIndent = line :=
    List.takeWhile_append_dropWhile
  unfold opening? at hopening
  rw [hopening] at hhead
  obtain ⟨text, htext⟩ := List.head?_eq_some_iff.mp hopening
  rw [htext] at hsplit
  exact ⟨hhead, _, text, hsplit.symm, fun d hd => List.mem_takeWhile_imp hd⟩

theorem opening?_of_visible (hvisible : isBlankLine line = false) :
    ∃ c, opening? line = some c := by
  refine Option.ne_none_iff_exists'.mp fun hnone => ?_
  have hindent := List.dropWhile_eq_nil_iff.mp (List.head?_eq_none_iff.mp hnone)
  have hblank : isBlankLine line = true := by
    refine isBlankLine_of_skipped fun c hc => ?_
    rcases isIndent_cases (hindent c hc) with rfl | rfl <;> rfl
  rw [hvisible] at hblank
  cases hblank

theorem isBlankLine_of_opening (hopening : opening? line = some '#') :
    isBlankLine line = false := by
  obtain ⟨_, indent, text, rfl, _⟩ := opening?_eq_some hopening
  exact isBlankLine_comment indent text

theorem IsRemark.of_opening (hopening : opening? line = some '#') (hline : '\n' ∉ line) :
    IsRemark line := by
  obtain ⟨_, indent, text, rfl, hindent⟩ := opening?_eq_some hopening
  exact .comment hindent fun hmem => hline (by simp [hmem])

theorem isBlankLine_outdent (width : Nat) (hblank : isBlankLine line = true) :
    isBlankLine (outdent width line) = true :=
  List.all_eq_true.mpr fun c hc => List.all_eq_true.mp hblank c (mem_of_mem_outdent hc)

/-- A remark stays one when indentation is taken off, unless it is a comment with less of it. -/
theorem IsRemark.outdent {width : Nat} (hremark : IsRemark line)
    (hwidth : isBlankLine line = true ∨ width ≤ indentWidth line) :
    IsRemark (outdent width line) := by
  cases hremark with
  | blank hline => exact .blank fun c hc => hline c (mem_of_mem_outdent hc)
  | @comment indent text hindent htext =>
      rw [isBlankLine_comment, indentWidth_append hindent rfl] at hwidth
      have hlength : width ≤ indent.length := hwidth.resolve_left (by decide)
      have hreturn : '#' ≠ '\r' := by decide
      obtain ⟨rest, hrest, heq⟩ := outdent_append hindent hlength hreturn text
      rw [heq]
      exact .comment (fun c hc => hindent c (List.mem_of_mem_drop hc)) fun hmem =>
        htext (hrest _ hmem)

end Text

namespace Lexer

open Text

variable {state : State} {line : List Char}

/-! ## Lines that begin -/

/-- A state in which a line begins outside of brackets and the line before it is ended. -/
structure State.BeginsLine (state : State) : Prop where
  brackets : state.brackets = 0
  atLineStart : state.atLineStart = true
  ended : state.midLine = false

theorem State.pushNewline_of_ended (hended : state.midLine = false) :
    state.pushNewline = state := by
  unfold pushNewline
  unfold midLine at hended
  split
  next => rfl
  next last rest hlexemes =>
    rw [hlexemes] at hended
    exact if_pos (by simpa using hended)

theorem State.midLine_pushNewline (state : State) : state.pushNewline.midLine = false := by
  unfold pushNewline
  split
  next hlexemes => simp [midLine, hlexemes]
  next last rest hlexemes =>
    split
    next hlast => simp [midLine, hlexemes, hlast]
    next => rfl

theorem State.beginsLine_start : ({} : State).BeginsLine :=
  ⟨rfl, rfl, rfl⟩

theorem State.beginsLine_nextLine (hbrackets : state.brackets = 0) :
    state.nextLine.BeginsLine := by
  have hended := state.midLine_pushNewline
  rw [nextLine, if_pos hbrackets]
  rw [pushNewline_eq] at hended ⊢
  exact ⟨hbrackets, rfl, hended⟩

theorem State.BeginsLine.relined (hstate : state.BeginsLine) (line : Nat) :
    ({ state with line } : State).BeginsLine :=
  ⟨hstate.brackets, hstate.atLineStart, hstate.ended⟩

/-- A line end where a line begins adds to the count of lines. -/
theorem State.BeginsLine.nextLine_eq (hstate : state.BeginsLine) :
    state.nextLine = { state with line := state.line + 1 } := by
  obtain ⟨line, brackets, indents, atLineStart, lexemes⟩ := state
  obtain ⟨hbrackets, hstart, hended⟩ := hstate
  dsimp only at hbrackets hstart
  subst hbrackets hstart
  rw [nextLine, if_pos rfl, pushNewline_of_ended hended]

/-! ## Remarks add no token -/

theorem indentation_append {indent : List Char} (hindent : ∀ c ∈ indent, isIndent c = true)
    (rest : List Char) : (indentation (indent ++ rest)).2 = (indentation rest).2 := by
  induction indent with
  | nil => rfl
  | cons c indent ih =>
      obtain ⟨hc, hrest⟩ := List.forall_mem_cons.mp hindent
      rcases isIndent_cases hc with rfl | rfl
      · exact ih hrest
      · exact ih hrest

theorem isBlankOrComment_skipped (hline : ∀ c ∈ line, isSkipped c = true) :
    isBlankOrComment (indentation line).2 = true := by
  induction line with
  | nil => rfl
  | cons c rest ih =>
      obtain ⟨hc, hrest⟩ := List.forall_mem_cons.mp hline
      rcases isSkipped_cases hc with rfl | rfl | rfl
      · exact ih hrest
      · exact ih hrest
      · rfl

/-- Where a line begins, indentation before a remark is passed over with the first character of
the remark. -/
theorem step_remark (hstate : state.BeginsLine) {text : List Char}
    (htext : isBlankOrComment (indentation text).2 = true) :
    step state text = takeNext ({ state with atLineStart := false }, (indentation text).2) := by
  have hsettle : settleLine state text =
      .ok ({ state with atLineStart := false }, (indentation text).2) := by
    rw [settleLine, if_pos ⟨hstate.atLineStart, hstate.brackets⟩]
    exact if_pos htext
  rw [step_eq, hsettle, ok_bind]

/-- Blanks within a line are passed over one by one. -/
theorem scan_skipped (hstart : state.atLineStart = false)
    (hline : ∀ c ∈ line, isSkipped c = true) : scan state line = .ok state := by
  induction line with
  | nil => rw [scan]
  | cons c rest ih =>
      obtain ⟨hc, hrest⟩ := List.forall_mem_cons.mp hline
      have hsettle : settleLine state (c :: rest) = .ok (state, c :: rest) := by
        obtain ⟨line, brackets, indents, atLineStart, lexemes⟩ := state
        dsimp only at hstart
        subst hstart
        exact if_neg (by simp)
      have hstep : step state (c :: rest) = .ok (state, rest) := by
        rw [step_eq, hsettle, ok_bind]
        rcases isSkipped_cases hc with rfl | rfl | rfl <;> rfl
      rw [scan_cons hstep]
      exact ih hrest

/-- A remark is passed over where a line begins. -/
theorem scan_remark (hstate : state.BeginsLine) (hremark : IsRemark line) :
    scan state line = .ok state ∨ scan state line = .ok { state with atLineStart := false } := by
  obtain _ | ⟨c, rest⟩ := line
  · exact .inl (by rw [scan])
  right
  suffices hstep : ∃ left,
      step state (c :: rest) = .ok ({ state with atLineStart := false }, left) ∧
        ∀ d ∈ left, isSkipped d = true by
    obtain ⟨left, hstep, hleft⟩ := hstep
    rw [scan_cons hstep]
    exact scan_skipped rfl hleft
  generalize hline : c :: rest = line at hremark
  cases hremark with
  | blank hskipped =>
      have hsuffix := indentation_suffix line
      rw [step_remark hstate (isBlankOrComment_skipped hskipped)]
      cases hleft : (indentation line).2 with
      | nil => exact ⟨[], rfl, by simp⟩
      | cons d after =>
          rw [hleft] at hsuffix
          obtain ⟨hd, hafter⟩ := List.forall_mem_cons.mp fun e he => hskipped e (hsuffix.mem he)
          refine ⟨after, ?_, hafter⟩
          rcases isSkipped_cases hd with rfl | rfl | rfl <;> rfl
  | @comment indent text hindent htext =>
      have hindentation : (indentation (indent ++ '#' :: text)).2 = '#' :: text :=
        indentation_append hindent _
      have hnone : text.dropWhile (· != '\n') = [] := by
        refine List.dropWhile_eq_nil_iff.mpr ?_
        intro d hd
        exact bne_iff_ne.mpr fun heq => htext (heq ▸ hd)
      rw [step_remark hstate (by rw [hindentation]; rfl), hindentation]
      refine ⟨[], ?_, by simp⟩
      rw [← hnone]
      rfl

/-- A remark with the line end after it adds to the count of lines. -/
theorem scan_remark_line (hstate : state.BeginsLine) (hremark : IsRemark line)
    (rest : List Char) :
    scan state (line ++ '\n' :: rest) = scan { state with line := state.line + 1 } rest := by
  rw [← hstate.nextLine_eq]
  rcases scan_remark hstate hremark with hscan | hscan
  · exact scan_line hscan hstate.brackets
  · rw [← nextLine_settled hstate.brackets]
    exact scan_line hscan hstate.brackets

/-- Text of remarks adds no token. -/
theorem scan_remarks {pieces : List (List Char)} (hpieces : ∀ piece ∈ pieces, IsRemark piece)
    (hstate : state.BeginsLine) :
    ∃ final, scan state (join ['\n'] pieces) = .ok final ∧ final.lexemes = state.lexemes ∧
      final.indents = state.indents := by
  induction pieces generalizing state with
  | nil => exact ⟨state, by rw [join, List.intercalate_nil, scan], rfl, rfl⟩
  | cons piece rest ih =>
      obtain ⟨hpiece, hrest⟩ := List.forall_mem_cons.mp hpieces
      by_cases hnone : rest = []
      · subst hnone
        rw [join_singleton]
        rcases scan_remark hstate hpiece with hscan | hscan
        · exact ⟨_, hscan, rfl, rfl⟩
        · exact ⟨_, hscan, rfl, rfl⟩
      · rw [join_cons piece hnone, scan_remark_line hstate hpiece]
        exact ih hrest (hstate.relined _)

/-! ## Blank text that is scanned -/

theorem indentation_split (text : List Char) :
    ∃ indent, (∀ c ∈ indent, isIndent c = true) ∧ text = indent ++ (indentation text).2 := by
  induction text with
  | nil => exact ⟨[], by simp, rfl⟩
  | cons c rest ih =>
      obtain ⟨indent, hindent, hrest⟩ := ih
      by_cases hc : isIndent c = true
      · refine ⟨c :: indent, List.forall_mem_cons.mpr ⟨hc, hindent⟩, ?_⟩
        have hsame : (indentation (c :: rest)).2 = (indentation rest).2 := by
          rcases isIndent_cases hc with rfl | rfl <;> rfl
        rw [hsame, List.cons_append, ← hrest]
      · have hsame : (indentation (c :: rest)).2 = c :: rest := by
          have hnone : ¬ c = ' ' ∧ ¬ c = '\t' := by simpa [isIndent] using hc
          rw [indentation, if_neg hnone.1, if_neg hnone.2]
        exact ⟨[], by simp, hsame.symm⟩

theorem settleLine_split {state next : State} {text rest : List Char}
    (hsettle : settleLine state text = .ok (next, rest)) :
    ∃ indent, (∀ c ∈ indent, isIndent c = true) ∧ text = indent ++ rest := by
  unfold settleLine at hsettle
  split at hsettle
  next =>
    unfold startLine at hsettle
    dsimp only at hsettle
    split at hsettle
    next =>
      cases hsettle
      exact indentation_split text
    next =>
      obtain ⟨_, _, hpair⟩ := map_eq_ok.mp hsettle
      cases hpair
      exact indentation_split text
  next =>
    cases hsettle
    exact ⟨[], by simp, rfl⟩

/-- A blank is scanned if it is passed over between tokens or ends a line. -/
theorem takeOne_blank {state next : State} {c : Char} (hc : Unicode.isBlank c = true)
    {text rest : List Char} (htake : takeOne state c text = .ok (next, rest)) :
    (isSkipped c = true ∨ c = '\n') ∧ rest = text := by
  unfold takeOne at htake
  split at htake
  next hline =>
    cases htake
    exact ⟨.inr hline, rfl⟩
  next =>
    split at htake
    next hskipped =>
      cases htake
      exact ⟨.inl (by simpa [isSkipped, or_assoc] using hskipped), rfl⟩
    next =>
      split at htake
      next heq =>
        subst heq
        cases hc
      next =>
        split at htake
        next heq =>
          subst heq
          cases hc
        next =>
          rw [readToken_blank hc] at htake
          cases htake

/-- Blank text that is scanned has no other blanks. -/
theorem skipped_of_scan {state final : State} {text rest : List Char}
    (hblank : ∀ c ∈ text, Unicode.isBlank c = true)
    (hscan : scan state (text ++ rest) = .ok final) :
    ∀ c ∈ text, isSkipped c = true ∨ c = '\n' := by
  generalize hwhole : text ++ rest = whole at hscan
  fun_induction scan state whole generalizing text with
  | case1 =>
      rw [(List.append_eq_nil_iff.mp hwhole).1]
      simp
  | case2 => cases hscan
  | case3 state c after next left hstep ih =>
      rw [step_eq] at hstep
      obtain ⟨⟨inner, middle⟩, hsettle, htake⟩ := bind_eq_ok.mp hstep
      obtain ⟨indent, hindent, hsplit⟩ := settleLine_split hsettle
      have hskipped : ∀ d ∈ indent, isSkipped d = true ∨ d = '\n' := by
        intro d hd
        rcases isIndent_cases (hindent d hd) with rfl | rfl <;> exact .inl rfl
      rcases List.append_eq_append_iff.mp (hwhole.trans hsplit) with
        ⟨more, rfl, -⟩ | ⟨more, rfl, rfl⟩
      · exact fun d hd => hskipped d (List.mem_append_left _ hd)
      · refine List.forall_mem_append.mpr ⟨hskipped, ?_⟩
        cases more with
        | nil => simp
        | cons d more =>
            obtain ⟨hd, hmore⟩ := List.forall_mem_cons.mp (List.forall_mem_append.mp hblank).2
            obtain ⟨htaken, rfl⟩ := takeOne_blank hd htake
            exact List.forall_mem_cons.mpr ⟨htaken, ih hmore rfl hscan⟩

theorem skipped_of_scan_line {state final : State} {line rest : List Char}
    (hblank : isBlankLine line = true) (hline : '\n' ∉ line)
    (hscan : scan state (line ++ rest) = .ok final) : ∀ c ∈ line, isSkipped c = true := by
  intro c hc
  refine (skipped_of_scan (List.all_eq_true.mp hblank) hscan c hc).resolve_right ?_
  rintro rfl
  exact hline hc

/-! ## Remarks between lines -/

/-- A text after which a line may begin: it leaves no bracket open, and no backslash at its end
joins its last line to the next one. -/
def EndsLine (text : List Char) : Prop :=
  ∃ final, scan {} text = .ok final ∧ final.brackets = 0

/-- What follows lines after which a line may begin is scanned from there. -/
theorem scan_join_append {before : List (List Char)} {final : State}
    (hscan : scan {} (join ['\n'] before) = .ok final) (hbrackets : final.brackets = 0) :
    ∃ state : State, state.BeginsLine ∧ state.tokens = final.tokens ∧
      ∀ rest, rest ≠ [] → scan {} (join ['\n'] (before ++ rest)) =
        scan state (join ['\n'] rest) := by
  by_cases hnone : before = []
  · subst hnone
    rw [join, List.intercalate_nil, scan] at hscan
    cases hscan
    exact ⟨{}, State.beginsLine_start, rfl, fun rest _ => rfl⟩
  · refine ⟨final.nextLine, State.beginsLine_nextLine hbrackets, final.tokens_nextLine, ?_⟩
    intro rest hrest
    rw [join_append hnone hrest]
    exact scan_line hscan hbrackets

/-- A remark after such lines changes no token. -/
theorem scan_insert_remark {before after : List (List Char)} (hends : EndsLine (join ['\n'] before))
    (hremark : IsRemark line) {final : State}
    (hscan : scan {} (join ['\n'] (before ++ after)) = .ok final) :
    ∃ final', scan {} (join ['\n'] (before ++ line :: after)) = .ok final' ∧
      final'.tokens = final.tokens := by
  obtain ⟨ended, hended, hbrackets⟩ := hends
  obtain ⟨state, hstate, htokens, hrest⟩ := scan_join_append hended hbrackets
  rw [hrest _ (List.cons_ne_nil line after)]
  by_cases hnone : after = []
  · subst hnone
    rw [List.append_nil] at hscan
    cases hended.symm.trans hscan
    rw [join_singleton, ← htokens]
    rcases scan_remark hstate hremark with hlast | hlast
    · exact ⟨_, hlast, rfl⟩
    · exact ⟨_, hlast, State.tokens_congr rfl rfl⟩
  · rw [hrest after hnone] at hscan
    rw [join_cons line hnone, scan_remark_line hstate hremark]
    obtain ⟨final', hfinal', hrelined⟩ :=
      scan_relined (State.Relined.of_line state (state.line + 1)) _ _ hscan
    exact ⟨final', hfinal', State.tokens_congr hrelined.lexemes hrelined.indents⟩

end Lexer

end SchemaGuard
