import SchemaGuard.Proofs.Source.Sequence

/-! # Lines and their indentation

Dedentation looks at a text line by line. More indentation before every line, or a carriage
return at the end of it, is taken off again, so what is left of the text is the same but for a
line end after its last line.
-/

namespace SchemaGuard.Text

/-! ## Texts by lines -/

/-- A property of all lines that lasts when one more line is put in front holds of all texts. -/
theorem line_induction {motive : List Char → Prop} (last : ∀ line, '\n' ∉ line → motive line)
    (cons : ∀ line text, '\n' ∉ line → motive text → motive (line ++ '\n' :: text))
    (text : List Char) : motive text := by
  suffices ∀ line, '\n' ∉ line → motive (line ++ text) from this [] List.not_mem_nil
  induction text with
  | nil => exact fun line hline => (List.append_nil line).symm ▸ last line hline
  | cons c rest ih =>
      intro line hline
      by_cases hc : c = '\n'
      · exact hc ▸ cons line rest hline (ih [] List.not_mem_nil)
      · rw [List.append_cons]
        exact ih (line ++ [c]) (by simp [hline, Ne.symm hc])

theorem linesFrom_line {line : List Char} (hline : '\n' ∉ line) (opened text : List Char) :
    linesFrom opened (line ++ '\n' :: text) =
      dropReturn (opened.reverse ++ line) :: lines text := by
  induction line generalizing opened with
  | nil => rw [List.nil_append, linesFrom, if_pos rfl, List.append_nil, lines]
  | cons c line ih =>
      obtain ⟨hc, hline⟩ := List.ne_and_not_mem_of_not_mem_cons hline
      rw [List.cons_append, linesFrom, if_neg (Ne.symm hc), ih hline, List.reverse_cons,
        ← List.append_cons]

theorem linesFrom_last {line : List Char} (hline : '\n' ∉ line) (opened : List Char) :
    linesFrom opened line =
      if opened.reverse ++ line = [] then [] else [opened.reverse ++ line] := by
  induction line generalizing opened with
  | nil => cases opened <;> simp [linesFrom]
  | cons c line ih =>
      obtain ⟨hc, hline⟩ := List.ne_and_not_mem_of_not_mem_cons hline
      rw [linesFrom, if_neg (Ne.symm hc), ih hline, List.reverse_cons, ← List.append_cons]

theorem lines_last {line : List Char} (hline : '\n' ∉ line) :
    lines line = if line = [] then [] else [line] :=
  linesFrom_last hline []

theorem dropReturn_of_notMem {line : List Char} (hreturn : '\r' ∉ line) :
    dropReturn line = line := by
  unfold dropReturn
  split
  next hlast => exact absurd (List.mem_of_getLast? hlast) hreturn
  next => rfl

theorem lines_cons {line : List Char} (hline : '\n' ∉ line) (hreturn : '\r' ∉ line)
    (text : List Char) : lines (line ++ '\n' :: text) = line :: lines text := by
  rw [lines, linesFrom_line hline, List.reverse_nil, List.nil_append,
    dropReturn_of_notMem hreturn]

theorem lines_eq_nil {text : List Char} (hlines : lines text = []) : text = [] := by
  induction text using line_induction with
  | last line hline => simpa [lines_last hline] using hlines
  | cons line text hline => simp [lines, linesFrom_line hline] at hlines

theorem join_cons (line : List Char) {rest : List (List Char)} (hrest : rest ≠ []) :
    join ['\n'] (line :: rest) = line ++ '\n' :: join ['\n'] rest := by
  obtain ⟨next, rest, rfl⟩ := List.exists_cons_of_ne_nil hrest
  rw [join, List.intercalate_cons_cons, join, List.append_assoc]
  rfl

theorem join_singleton (line : List Char) : join ['\n'] [line] = line :=
  List.intercalate_singleton

theorem join_snoc {lines : List (List Char)} (hlines : lines ≠ []) :
    join ['\n'] (lines ++ [[]]) = join ['\n'] lines ++ ['\n'] := by
  induction lines with
  | nil => exact absurd rfl hlines
  | cons line rest ih =>
      by_cases hrest : rest = []
      · subst hrest
        rw [List.singleton_append, join_cons line (by simp), join_singleton, join_singleton]
      · rw [List.cons_append, join_cons line (by simp), join_cons line hrest, ih hrest,
          List.append_assoc, List.cons_append]

/-! ## Texts up to a last line end -/

/-- A text, or the same with a line end after it. -/
def Trailed (text text' : List Char) : Prop :=
  text' = text ∨ text' = text ++ ['\n']

/-- What is left of the lines of a text when the given number of bytes is cut off each. -/
def cut (width : Nat) (text : List Char) : List Char :=
  join ['\n'] ((lines text).map (dropBytes width))

theorem dropBytes_zero (line : List Char) : dropBytes 0 line = line := by
  cases line <;> rfl

theorem dropBytes_nil (width : Nat) : dropBytes width [] = [] := by
  cases width <;> rfl

theorem cut_cons (width : Nat) {line : List Char} (hline : '\n' ∉ line) (hreturn : '\r' ∉ line)
    {text : List Char} (htext : text ≠ []) :
    cut width (line ++ '\n' :: text) = dropBytes width line ++ '\n' :: cut width text := by
  rw [cut, lines_cons hline hreturn, List.map_cons, join_cons, cut]
  simpa using fun hlines => htext (lines_eq_nil hlines)

theorem cut_single (width : Nat) {line : List Char} (hline : '\n' ∉ line) (hreturn : '\r' ∉ line) :
    cut width (line ++ ['\n']) = dropBytes width line := by
  rw [cut, lines_cons hline hreturn]
  exact join_singleton _

theorem cut_last (width : Nat) {line : List Char} (hline : '\n' ∉ line) :
    cut width line = dropBytes width line := by
  rw [cut, lines_last hline]
  split
  next hempty =>
    subst hempty
    cases width <;> rfl
  next => exact join_singleton _

theorem trailed_cut_zero {text : List Char} (hreturn : '\r' ∉ text) :
    Trailed (cut 0 text) text := by
  induction text using line_induction with
  | last line hline =>
      rw [cut_last 0 hline, dropBytes_zero]
      exact .inl rfl
  | cons line text hline ih =>
      rw [List.mem_append, List.mem_cons, not_or, not_or] at hreturn
      obtain ⟨hline', _, htext⟩ := hreturn
      by_cases hempty : text = []
      · subst hempty
        rw [cut_single 0 hline hline', dropBytes_zero]
        exact .inr rfl
      · rw [cut_cons 0 hline hline' hempty, dropBytes_zero]
        refine (ih htext).imp (fun heq => ?_) (fun heq => ?_)
        · exact congrArg (line ++ '\n' :: ·) heq
        · rw [List.append_assoc, List.cons_append, ← heq]

theorem mem_lines {text line : List Char} (hline : line ∈ lines text) {c : Char} (hc : c ∈ line)
    (hreturn : '\r' ∉ text) : c ∈ text ∧ c ≠ '\n' := by
  induction text using line_induction with
  | last last hlast =>
      rw [lines_last hlast] at hline
      split at hline
      next => cases hline
      next =>
        cases List.mem_singleton.mp hline
        exact ⟨hc, fun heq => hlast (heq ▸ hc)⟩
  | cons first text hfirst ih =>
      rw [List.mem_append, List.mem_cons, not_or, not_or] at hreturn
      obtain ⟨hfirst', _, htext⟩ := hreturn
      rw [lines_cons hfirst hfirst'] at hline
      obtain rfl | hline := List.mem_cons.mp hline
      · exact ⟨List.mem_append_left _ hc, fun heq => hfirst (heq ▸ hc)⟩
      · obtain ⟨hmem, hne⟩ := ih hline htext
        exact ⟨List.mem_append_right _ (List.mem_cons_of_mem _ hmem), hne⟩

theorem dropBytes_suffix (width : Nat) (line : List Char) : dropBytes width line <:+ line := by
  induction line generalizing width with
  | nil => cases width <;> exact List.suffix_rfl
  | cons c rest ih =>
      cases width with
      | zero => exact List.suffix_rfl
      | succ width =>
          rw [dropBytes]
          · split
            · exact (ih _).trans (List.suffix_cons c rest)
            · exact List.nil_suffix
          · exact Nat.succ_ne_zero width

theorem dropTrailing_of_notMem {line : List Char} (hreturn : '\r' ∉ line) :
    dropTrailing (· == '\r') line = line := by
  rw [dropTrailing]
  cases hline : line.reverse with
  | nil => rw [List.reverse_eq_nil_iff.mp hline]; rfl
  | cons c rest =>
      have hc : c ≠ '\r' := by
        rintro rfl
        exact hreturn (List.mem_reverse.mp (hline ▸ List.mem_cons_self))
      rw [List.dropWhile_cons, if_neg (by simpa using hc), ← hline, List.reverse_reverse]

theorem dedent_eq_cut {text : List Char} (hreturn : '\r' ∉ text) (hwidth : commonIndent text ≠ 0) :
    dedent text = cut (commonIndent text) text := by
  rw [dedent, if_neg hwidth, cut]
  refine congrArg (join ['\n']) (List.map_congr_left fun line hline => ?_)
  refine dropTrailing_of_notMem fun hmem => hreturn ?_
  exact (mem_lines hline ((dropBytes_suffix _ line).mem hmem) hreturn).1

/-- Without carriage returns a text is dedented by cutting its indentation off each line. -/
theorem trailed_dedent {text : List Char} (hreturn : '\r' ∉ text) :
    Trailed (cut (commonIndent text) text) (dedent text) := by
  by_cases hwidth : commonIndent text = 0
  · rw [dedent, if_pos hwidth, hwidth]
    exact trailed_cut_zero hreturn
  · exact .inl (dedent_eq_cut hreturn hwidth)

theorem cut_sublist (width : Nat) {text : List Char} (hreturn : '\r' ∉ text) :
    (cut width text).Sublist text := by
  induction text using line_induction with
  | last line hline =>
      rw [cut_last width hline]
      exact (dropBytes_suffix width line).sublist
  | cons line text hline ih =>
      rw [List.mem_append, List.mem_cons, not_or, not_or] at hreturn
      obtain ⟨hline', _, htext⟩ := hreturn
      have hcut := (dropBytes_suffix width line).sublist
      by_cases hempty : text = []
      · subst hempty
        rw [cut_single width hline hline']
        exact hcut.trans (List.sublist_append_left _ _)
      · rw [cut_cons width hline hline' hempty]
        exact hcut.append ((ih htext).cons_cons '\n')

theorem dedent_sublist {text : List Char} (hreturn : '\r' ∉ text) :
    (dedent text).Sublist text := by
  by_cases hwidth : commonIndent text = 0
  · rw [dedent, if_pos hwidth]
  · rw [dedent_eq_cut hreturn hwidth]
    exact cut_sublist _ hreturn

/-- A text that has fewer characters has no more bytes. -/
theorem utf8ByteSize_le {text text' : List Char} (htext : text.Sublist text') :
    (String.ofList text).utf8ByteSize ≤ (String.ofList text').utf8ByteSize := by
  have hcons : ∀ (c : Char) (rest : List Char), (String.ofList (c :: rest)).utf8ByteSize =
      (String.ofList [c]).utf8ByteSize + (String.ofList rest).utf8ByteSize := fun c rest => by
    rw [← String.utf8ByteSize_append, ← String.ofList_append, List.singleton_append]
  induction htext with
  | slnil => exact Nat.le_refl _
  | @cons _ longer c _ ih =>
      have hlonger := hcons c longer
      omega
  | @cons_cons shorter longer c _ ih =>
      have hshorter := hcons c shorter
      have hlonger := hcons c longer
      omega

/-! ## Texts without a backslash at their end -/

theorem getLast?_join {lines : List (List Char)} {c : Char}
    (hlast : (join ['\n'] lines).getLast? = some c) :
    c = '\n' ∨ ∃ line, lines.getLast? = some line ∧ line.getLast? = some c := by
  induction lines with
  | nil => cases hlast
  | cons line rest ih =>
      by_cases hrest : rest = []
      · subst hrest
        rw [join_singleton] at hlast
        exact .inr ⟨line, rfl, hlast⟩
      · rw [join_cons line hrest, List.getLast?_append, List.getLast?_cons] at hlast
        cases hmore : (join ['\n'] rest).getLast? with
        | none =>
            rw [hmore] at hlast
            exact .inl (Option.some.inj hlast).symm
        | some d =>
            rw [hmore] at hlast
            cases hlast
            refine (ih hmore).imp id ?_
            rintro ⟨last, hlast, hd⟩
            exact ⟨last, by rw [List.getLast?_cons, hlast]; rfl, hd⟩

/-- Whether the last line that is not blank ends in a backslash. -/
def endsJoining (text : List Char) : Bool :=
  ((lines text).filter (!isBlankLine ·)).getLast?.any (·.getLast? == some '\\')

/-- Cutting off indentation leaves no backslash at the end of a text if there is none at the end of
its last line that is not blank. -/
theorem cut_not_joining (width : Nat) {text : List Char}
    (hjoins : endsJoining text = false) : (cut width text).getLast? ≠ some '\\' := by
  intro hlast
  obtain ⟨⟨⟩⟩ | ⟨kept, hkept, hlast⟩ := getLast?_join hlast
  rw [List.getLast?_map] at hkept
  obtain ⟨line, hline, rfl⟩ := Option.map_eq_some_iff.mp hkept
  obtain ⟨before, hsuffix⟩ := dropBytes_suffix width line
  have hend : line.getLast? = some '\\' := by
    rw [← hsuffix, List.getLast?_append, hlast]
    rfl
  have hvisible : isBlankLine line = false := by
    rw [isBlankLine, List.all_eq_false]
    exact ⟨'\\', List.mem_of_getLast? hend, by decide⟩
  have hfiltered : ((lines text).filter (!isBlankLine ·)).getLast? = some line := by
    obtain ⟨init, hinit⟩ := List.getLast?_eq_some_iff.mp hline
    rw [hinit, List.filter_append, List.filter_singleton]
    simp [hvisible]
  rw [endsJoining, hfiltered] at hjoins
  simp [hend] at hjoins

/-! ## Indented texts -/

/-- Two texts of which the second has the same characters before every line of the first. What
comes after the last line end, if it is nothing, counts as a line or not. -/
inductive Indented (before : List Char) : List Char → List Char → Prop
  | nil : Indented before [] []
  | last {line : List Char} (hline : '\n' ∉ line) : Indented before line (before ++ line)
  | cons {line text text' : List Char} (hline : '\n' ∉ line)
      (hrest : Indented before text text') :
      Indented before (line ++ '\n' :: text) (before ++ line ++ '\n' :: text')

theorem foldl_min_add (width : Nat) (widths : List Nat) (first : Nat) :
    (widths.map (width + ·)).foldl min (width + first) = width + widths.foldl min first := by
  induction widths generalizing first with
  | nil => rfl
  | cons next rest ih =>
      rw [List.map_cons, List.foldl_cons, List.foldl_cons, Nat.add_min_add_left, ih]

/-- Every text can be indented. -/
theorem indented_flatMap (before text : List Char) : Indented before text
    (before ++ text.flatMap fun c => if c = '\n' then '\n' :: before else [c]) := by
  have hplain : ∀ line : List Char, '\n' ∉ line →
      line.flatMap (fun c => if c = '\n' then '\n' :: before else [c]) = line := by
    intro line hline
    induction line with
    | nil => rfl
    | cons c rest ih =>
        obtain ⟨hc, hrest⟩ := List.ne_and_not_mem_of_not_mem_cons hline
        rw [List.flatMap_cons, if_neg (Ne.symm hc), ih hrest]
        rfl
  induction text using line_induction with
  | last line hline =>
      rw [hplain line hline]
      exact .last hline
  | cons line text hline ih =>
      rw [List.flatMap_append, hplain line hline, List.flatMap_cons, if_pos rfl,
        List.cons_append, ← List.append_assoc]
      exact .cons hline ih

theorem Indented.mem {before text text' : List Char} (htext : Indented before text text') {c : Char}
    (hc : c ∈ text') : c ∈ before ∨ c ∈ text := by
  induction htext with
  | nil => exact .inr hc
  | last => exact List.mem_append.mp hc
  | cons _ _ ih =>
      simp only [List.mem_append, List.mem_cons] at hc ⊢
      obtain (hc | hc) | rfl | hc := hc
      · exact .inl hc
      · exact .inr (.inl hc)
      · exact .inr (.inr (.inl rfl))
      · exact (ih hc).imp id fun hc => .inr (.inr hc)

theorem Indented.eq_of_nil {text text' : List Char} (htext : Indented [] text text') :
    text' = text := by
  induction htext with
  | nil | last => rfl
  | cons _ _ ih => rw [ih, List.nil_append]

section

variable {before text text' : List Char} (hbefore : ∀ c ∈ before, isIndent c = true)

include hbefore

theorem notMem_before {c : Char} (hc : isIndent c = false) : c ∉ before := by
  intro hmem
  rw [hbefore c hmem] at hc
  cases hc

theorem return_notMem_indented (htext : Indented before text text') (hreturn : '\r' ∉ text) :
    '\r' ∉ text' :=
  fun hmem => (htext.mem hmem).elim (notMem_before hbefore rfl) hreturn

theorem lines_indented (htext : Indented before text text') (hreturn : '\r' ∉ text) :
    ∃ more, lines text' = (lines text).map (before ++ ·) ++ more ∧
      (more = [] ∨ more = [before]) := by
  have hline := notMem_before hbefore (c := '\n') rfl
  have hreturn' := notMem_before hbefore (c := '\r') rfl
  induction htext with
  | nil => exact ⟨[], rfl, .inl rfl⟩
  | @last line hlast =>
      rw [lines_last hlast, lines_last (by simp [hline, hlast])]
      by_cases hempty : line = []
      · subst hempty
        by_cases hempty : before = []
        · exact ⟨[], by simp [hempty], .inl rfl⟩
        · exact ⟨[before], by simp [hempty], .inr rfl⟩
      · exact ⟨[], by simp [hempty], .inl rfl⟩
  | @cons line text text' hfirst hrest ih =>
      rw [List.mem_append, List.mem_cons, not_or, not_or] at hreturn
      obtain ⟨hfirst', _, htext⟩ := hreturn
      obtain ⟨more, hlines, hmore⟩ := ih htext
      refine ⟨more, ?_, hmore⟩
      rw [lines_cons hfirst hfirst', lines_cons (by simp [hline, hfirst])
        (by simp [hreturn', hfirst']), hlines]
      rfl

theorem isBlankLine_indented (line : List Char) :
    isBlankLine (before ++ line) = isBlankLine line := by
  have hblank : before.all Unicode.isBlank = true := by
    refine List.all_eq_true.mpr fun c hc => ?_
    obtain rfl | rfl : c = ' ' ∨ c = '\t' := by simpa [isIndent] using hbefore c hc
    · decide
    · decide
  rw [isBlankLine, List.all_append, hblank, Bool.true_and, isBlankLine]

theorem isBlankLine_of_mem_indented (htext : Indented before text text') (hreturn : '\r' ∉ text)
    (hblank : ∀ line ∈ lines text, isBlankLine line = true) {line : List Char}
    (hline : line ∈ lines text') : isBlankLine line = true := by
  obtain ⟨more, hlines, hmore⟩ := lines_indented hbefore htext hreturn
  rw [hlines] at hline
  obtain hline | hline := List.mem_append.mp hline
  · obtain ⟨inner, hinner, rfl⟩ := List.mem_map.mp hline
    rw [isBlankLine_indented hbefore]
    exact hblank inner hinner
  · obtain rfl | rfl := hmore
    · cases hline
    · cases List.mem_singleton.mp hline
      have hempty := isBlankLine_indented hbefore []
      rwa [List.append_nil] at hempty

theorem indentWidth_indented (line : List Char) :
    indentWidth (before ++ line) = before.length + indentWidth line := by
  rw [indentWidth, List.takeWhile_append_of_pos hbefore, List.length_append, indentWidth]

theorem dropBytes_indented (width : Nat) (line : List Char) :
    dropBytes (before.length + width) (before ++ line) = dropBytes width line := by
  induction before with
  | nil => rw [List.length_nil, Nat.zero_add, List.nil_append]
  | cons c rest ih =>
      obtain ⟨hc, hrest⟩ := List.forall_mem_cons.mp hbefore
      have hsize : c.utf8Size = 1 := by
        obtain rfl | rfl : c = ' ' ∨ c = '\t' := by simpa [isIndent] using hc
        · decide
        · decide
      rw [List.length_cons, Nat.add_right_comm, List.cons_append, dropBytes, hsize,
        if_pos (Nat.le_add_left 1 _), Nat.add_sub_cancel, ih hrest]
      exact Nat.succ_ne_zero _

theorem commonIndent_indented (htext : Indented before text text') (hreturn : '\r' ∉ text)
    (hvisible : ∃ line ∈ lines text, isBlankLine line = false) :
    commonIndent text' = before.length + commonIndent text := by
  obtain ⟨more, hlines, hmore⟩ := lines_indented hbefore htext hreturn
  have hblank : more.filter (!isBlankLine ·) = [] := by
    have hblank := isBlankLine_indented hbefore []
    rw [List.append_nil] at hblank
    obtain rfl | rfl := hmore
    · rfl
    · rw [List.filter_singleton, hblank]
      rfl
  have hwidths : ((lines text').filter (!isBlankLine ·)).map indentWidth =
      (((lines text).filter (!isBlankLine ·)).map indentWidth).map (before.length + ·) := by
    rw [hlines, List.filter_append, hblank, List.append_nil, List.filter_map, List.map_map,
      List.map_map]
    simp only [Function.comp_def, isBlankLine_indented hbefore, indentWidth_indented hbefore]
  rw [commonIndent, commonIndent, hwidths]
  cases hfirst : ((lines text).filter (!isBlankLine ·)).map indentWidth with
  | nil =>
      obtain ⟨line, hline, hvisible⟩ := hvisible
      rw [List.map_eq_nil_iff, List.filter_eq_nil_iff] at hfirst
      exact absurd (by simp [hvisible]) (hfirst line hline)
  | cons first rest =>
      exact foldl_min_add before.length rest first

/-- However far a text is indented, what is left of it is the same. -/
theorem trailed_dedent_indented (htext : Indented before text text') (hreturn : '\r' ∉ text)
    (hne : before ≠ []) (hvisible : ∃ line ∈ lines text, isBlankLine line = false) :
    Trailed (cut (commonIndent text) text) (dedent text') := by
  have hcommon := commonIndent_indented hbefore htext hreturn hvisible
  have hpos := List.length_pos_of_ne_nil hne
  obtain ⟨more, hlines, hmore⟩ := lines_indented hbefore htext hreturn
  rw [dedent_eq_cut (return_notMem_indented hbefore htext hreturn) (by omega), hcommon, cut, cut,
    hlines, List.map_append, List.map_map]
  have hcut : dropBytes (before.length + commonIndent text) ∘ (before ++ ·) =
      dropBytes (commonIndent text) :=
    funext fun line => dropBytes_indented hbefore _ line
  rw [hcut]
  obtain rfl | rfl := hmore
  · rw [List.map_nil, List.append_nil]
    exact .inl rfl
  · have hlast := dropBytes_indented hbefore (commonIndent text) []
    rw [List.append_nil] at hlast
    obtain ⟨line, hline, _⟩ := hvisible
    rw [List.map_singleton, hlast, dropBytes_nil, join_snoc, ← cut]
    · exact .inr rfl
    · simpa using List.ne_nil_of_mem hline

end

/-! ## Blank texts -/

theorem mem_lines_or {text : List Char} (hreturn : '\r' ∉ text) {c : Char} (hc : c ∈ text) :
    c = '\n' ∨ ∃ line ∈ lines text, c ∈ line := by
  induction text using line_induction with
  | last line hline =>
      rw [lines_last hline, if_neg (List.ne_nil_of_mem hc)]
      exact .inr ⟨line, List.mem_singleton.mpr rfl, hc⟩
  | cons line text hline ih =>
      rw [List.mem_append, List.mem_cons, not_or, not_or] at hreturn
      obtain ⟨hline', _, htext⟩ := hreturn
      rw [lines_cons hline hline']
      rw [List.mem_append, List.mem_cons] at hc
      obtain hc | rfl | hc := hc
      · exact .inr ⟨line, List.mem_cons_self, hc⟩
      · exact .inl rfl
      · exact (ih htext hc).imp id fun ⟨other, hother, hc⟩ =>
          ⟨other, List.mem_cons_of_mem _ hother, hc⟩

/-- A text without a line that is not blank is not indented. -/
theorem dedent_blank {text : List Char} (hblank : ∀ line ∈ lines text, isBlankLine line = true) :
    dedent text = text := by
  have hnone : (lines text).filter (!isBlankLine ·) = [] := by
    rw [List.filter_eq_nil_iff]
    intro line hline
    simp [hblank line hline]
  have hcommon : commonIndent text = 0 := by
    rw [commonIndent, hnone]
    rfl
  rw [dedent, if_pos hcommon]

/-! ## Carriage returns -/

/-- A text with a carriage return before every line end. -/
def withReturns (text : List Char) : List Char :=
  text.flatMap fun c => if c = '\n' then ['\r', '\n'] else [c]

theorem withReturns_line {line : List Char} (hline : '\n' ∉ line) : withReturns line = line := by
  induction line with
  | nil => rfl
  | cons c rest ih =>
      obtain ⟨hc, hrest⟩ := List.ne_and_not_mem_of_not_mem_cons hline
      rw [withReturns, List.flatMap_cons, if_neg (Ne.symm hc), ← withReturns, ih hrest]
      rfl

theorem lines_withReturns {text : List Char} (hreturn : '\r' ∉ text) :
    lines (withReturns text) = lines text := by
  induction text using line_induction with
  | last line hline => rw [withReturns_line hline]
  | cons line text hline ih =>
      rw [List.mem_append, List.mem_cons, not_or, not_or] at hreturn
      obtain ⟨hline', _, htext⟩ := hreturn
      have hreturns : withReturns (line ++ '\n' :: text) =
          (line ++ ['\r']) ++ '\n' :: withReturns text := by
        rw [withReturns, List.flatMap_append, ← withReturns, withReturns_line hline,
          List.append_assoc]
        rfl
      rw [hreturns, lines, linesFrom_line (by simp [hline]), lines_cons hline hline', ih htext]
      simp [dropReturn]

/-- A text with carriage returns is dedented to the same text, or not at all. -/
theorem dedent_withReturns {text : List Char} (hreturn : '\r' ∉ text) :
    dedent (withReturns text) = dedent text ∨
      dedent (withReturns text) = withReturns text ∧ dedent text = text := by
  have hlines := lines_withReturns hreturn
  have hcommon : commonIndent (withReturns text) = commonIndent text := by
    rw [commonIndent, commonIndent, hlines]
  by_cases hwidth : commonIndent text = 0
  · right
    constructor
    · rw [dedent, hcommon, if_pos hwidth]
    · rw [dedent, if_pos hwidth]
  · left
    rw [dedent, dedent, hcommon, if_neg hwidth, if_neg hwidth, hlines]

end SchemaGuard.Text
