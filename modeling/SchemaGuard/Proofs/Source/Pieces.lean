import SchemaGuard.Proofs.Source.Dedent

/-! # Texts as pieces between line ends

A text is made of the pieces between its line ends. Its lines are these pieces without the carriage
returns at their ends, where nothing after the last line end is no line. Dedentation takes the
least indentation of a visible piece off each of them, so one more piece changes the others only
if it is visible and less indented than they are.
-/

namespace SchemaGuard.Text

variable {pieces before after : List (List Char)} {line : List Char}

theorem join_append (hbefore : before ≠ []) (hafter : after ≠ []) :
    join ['\n'] (before ++ after) = join ['\n'] before ++ '\n' :: join ['\n'] after := by
  induction before with
  | nil => exact absurd rfl hbefore
  | cons first rest ih =>
      by_cases hrest : rest = []
      · subst hrest
        rw [List.singleton_append, join_cons first hafter, join_singleton]
      · rw [List.cons_append, join_cons first (by simp [hrest]), ih hrest, join_cons first hrest,
          List.append_assoc, List.cons_append]

theorem join_cons_append (line : List Char) (rest : List (List Char)) :
    ∃ after, join ['\n'] (line :: rest) = line ++ after := by
  by_cases hrest : rest = []
  · exact ⟨[], by rw [hrest, join_singleton, List.append_nil]⟩
  · exact ⟨_, join_cons line hrest⟩

theorem mem_join {c : Char} :
    c ∈ join ['\n'] pieces → c = '\n' ∨ ∃ piece ∈ pieces, c ∈ piece := by
  induction pieces with
  | nil => exact fun hc => absurd hc List.not_mem_nil
  | cons piece rest ih =>
      intro hc
      by_cases hnone : rest = []
      · subst hnone
        rw [join_singleton] at hc
        exact .inr ⟨piece, List.mem_cons_self, hc⟩
      · rw [join_cons piece hnone, List.mem_append, List.mem_cons] at hc
        rcases hc with hc | hc | hc
        · exact .inr ⟨piece, List.mem_cons_self, hc⟩
        · exact .inl hc
        · refine (ih hc).imp id ?_
          rintro ⟨other, hother, hc⟩
          exact ⟨other, List.mem_cons_of_mem _ hother, hc⟩

theorem mem_join_of_mem {piece : List Char} (hpiece : piece ∈ pieces)
    {c : Char} (hc : c ∈ piece) : c ∈ join ['\n'] pieces := by
  induction pieces with
  | nil => cases hpiece
  | cons first rest ih =>
      by_cases hnone : rest = []
      · subst hnone
        rw [join_singleton, ← List.mem_singleton.mp hpiece]
        exact hc
      · rw [join_cons first hnone, List.mem_append, List.mem_cons]
        rcases List.mem_cons.mp hpiece with rfl | hrest
        · exact .inl hc
        · exact .inr (.inr (ih hrest))

/-- The pieces that are lines: all of them but an empty last one. -/
def shown (pieces : List (List Char)) : List (List Char) :=
  if pieces.getLast? = some [] then pieces.dropLast else pieces

theorem shown_append (before : List (List Char)) (hafter : after ≠ []) :
    shown (before ++ after) = before ++ shown after := by
  have hlast : (before ++ after).getLast? = after.getLast? := by
    rw [List.getLast?_append, List.getLast?_eq_some_getLast hafter]
    rfl
  rw [shown, shown, hlast, List.dropLast_append_of_ne_nil hafter]
  split <;> rfl

theorem shown_singleton (line : List Char) : shown [line] = if line = [] then [] else [line] := by
  simp [shown]

theorem dropReturn_cases (line : List Char) :
    dropReturn line = line ∨ ∃ rest, line = rest ++ ['\r'] ∧ dropReturn line = rest := by
  unfold dropReturn
  split
  next hlast =>
    obtain ⟨rest, rfl⟩ := List.getLast?_eq_some_iff.mp hlast
    exact .inr ⟨rest, rfl, List.dropLast_concat⟩
  next => exact .inl rfl

/-- A function of lines that has no regard to a carriage return at their ends has the same values
on the lines of a text and on its pieces. -/
theorem map_lines_join {α : Type} {f : List Char → α} (hf : ∀ line, f (line ++ ['\r']) = f line)
    (hpieces : ∀ piece ∈ pieces, '\n' ∉ piece) :
    (lines (join ['\n'] pieces)).map f = (shown pieces).map f := by
  have hreturn (line : List Char) : f (dropReturn line) = f line := by
    obtain heq | ⟨rest, rfl, heq⟩ := dropReturn_cases line
    · rw [heq]
    · rw [heq, hf]
  induction pieces with
  | nil => rfl
  | cons piece rest ih =>
      obtain ⟨hpiece, hrest⟩ := List.forall_mem_cons.mp hpieces
      by_cases hnone : rest = []
      · subst hnone
        rw [join_singleton, lines_last hpiece, shown_singleton]
      · rw [join_cons piece hnone, lines, linesFrom_line hpiece, List.reverse_nil, List.nil_append,
          List.map_cons, hreturn, ih hrest, ← List.map_cons]
        exact congrArg (List.map f) (shown_append [piece] hnone).symm

/-! ## The common indentation of pieces -/

/-- The indentation of a line that is visible. -/
def visibleWidth? (line : List Char) : Option Nat :=
  if isBlankLine line then none else some (indentWidth line)

theorem visibleWidth?_return (line : List Char) :
    visibleWidth? (line ++ ['\r']) = visibleWidth? line := by
  have hblank : isBlankLine (line ++ ['\r']) = isBlankLine line := by
    rw [isBlankLine, List.all_append, isBlankLine]
    exact Bool.and_true _
  have hwidth : indentWidth (line ++ ['\r']) = indentWidth line := by
    rw [indentWidth, indentWidth, List.takeWhile_append]
    split
    next hall => simp [hall, isIndent]
    next => rfl
  rw [visibleWidth?, visibleWidth?, hblank, hwidth]

/-- The least of some widths. -/
def least : List Nat → Nat
  | [] => 0
  | width :: rest => rest.foldl min width

theorem least_le {widths : List Nat} {width : Nat} (hwidth : width ∈ widths) :
    least widths ≤ width := by
  cases widths with
  | nil => cases hwidth
  | cons first rest => exact foldl_min_le hwidth

theorem least_mem {widths : List Nat} (hne : widths ≠ []) : least widths ∈ widths := by
  cases widths with
  | nil => exact absurd rfl hne
  | cons first rest =>
      clear hne
      induction rest generalizing first with
      | nil => exact List.mem_cons_self
      | cons next rest ih =>
          have hmem := ih (min first next)
          rw [least, List.mem_cons] at hmem
          rw [least, List.foldl_cons, List.mem_cons, List.mem_cons]
          rcases hmem with heq | hrest
          · rw [heq]
            rcases Nat.le_total first next with hle | hle
            · exact .inl (Nat.min_eq_left hle)
            · exact .inr (.inl (Nat.min_eq_right hle))
          · exact .inr (.inr hrest)

theorem least_insert (widths : List Nat) {more : List Nat} (hne : widths ++ more ≠ [])
    (width : Nat) : least (widths ++ width :: more) = min (least (widths ++ more)) width := by
  have hothers : ∀ other ∈ widths ++ more, other ∈ widths ++ width :: more := by
    intro other hother
    exact (List.mem_append.mp hother).elim (List.mem_append_left _)
      fun hmore => List.mem_append_right _ (List.mem_cons_of_mem _ hmore)
  have hwidth : width ∈ widths ++ width :: more :=
    List.mem_append_right _ List.mem_cons_self
  apply Nat.le_antisymm
  · exact Nat.le_min.mpr ⟨least_le (hothers _ (least_mem hne)), least_le hwidth⟩
  · have hmem : least (widths ++ width :: more) ∈ widths ++ width :: more :=
      least_mem (List.ne_nil_of_mem hwidth)
    rcases List.mem_append.mp hmem with hleft | hright
    · exact Nat.le_trans (Nat.min_le_left _ _) (least_le (List.mem_append_left _ hleft))
    · rcases List.mem_cons.mp hright with heq | hright
      · rw [heq]
        exact Nat.min_le_right _ _
      · exact Nat.le_trans (Nat.min_le_left _ _) (least_le (List.mem_append_right _ hright))

theorem commonIndent_join (hpieces : ∀ piece ∈ pieces, '\n' ∉ piece) :
    commonIndent (join ['\n'] pieces) = least (pieces.filterMap visibleWidth?) := by
  have hlines (lines : List (List Char)) :
      (lines.filter (!isBlankLine ·)).map indentWidth = lines.filterMap visibleWidth? := by
    induction lines with
    | nil => rfl
    | cons line rest ih =>
        rw [List.filterMap_cons, ← ih, visibleWidth?]
        cases hline : isBlankLine line <;> simp [hline]
  have hshown : (shown pieces).filterMap visibleWidth? = pieces.filterMap visibleWidth? := by
    unfold shown
    split
    next hlast =>
      obtain ⟨rest, rfl⟩ := List.getLast?_eq_some_iff.mp hlast
      rw [List.dropLast_concat, List.filterMap_append]
      exact (List.append_nil _).symm
    next => rfl
  have hmap (lines : List (List Char)) :
      lines.filterMap visibleWidth? = (lines.map visibleWidth?).filterMap id := by
    rw [List.filterMap_map, Function.id_comp]
  rw [← hshown, hmap, ← map_lines_join visibleWidth?_return hpieces, ← hmap, ← hlines]
  unfold commonIndent least
  rfl

theorem commonIndent_le_piece (hpieces : ∀ piece ∈ pieces, '\n' ∉ piece) (hline : line ∈ pieces)
    (hvisible : isBlankLine line = false) :
    commonIndent (join ['\n'] pieces) ≤ indentWidth line := by
  rw [commonIndent_join hpieces]
  exact least_le (List.mem_filterMap.mpr ⟨line, hline, by simp [visibleWidth?, hvisible]⟩)

theorem visibleWidths_blank (hblank : ∀ piece ∈ pieces, isBlankLine piece = true) :
    pieces.filterMap visibleWidth? = [] := by
  refine List.filterMap_eq_nil_iff.mpr ?_
  intro piece hpiece
  exact if_pos (hblank piece hpiece)

theorem commonIndent_blank (hpieces : ∀ piece ∈ pieces, '\n' ∉ piece)
    (hblank : ∀ piece ∈ pieces, isBlankLine piece = true) :
    commonIndent (join ['\n'] pieces) = 0 := by
  rw [commonIndent_join hpieces, visibleWidths_blank hblank]
  rfl

theorem mem_inserted {piece : List Char} :
    piece ∈ before ++ line :: after ↔ piece = line ∨ piece ∈ before ++ after := by
  rw [List.perm_middle.mem_iff, List.mem_cons]

section

variable (hpieces : ∀ piece ∈ before ++ line :: after, '\n' ∉ piece)

include hpieces

theorem notMem_others : ∀ piece ∈ before ++ after, '\n' ∉ piece :=
  fun piece hpiece => hpieces piece (mem_inserted.mpr (.inr hpiece))

/-- A line that is blank has no part in the indentation. -/
theorem commonIndent_insert_blank (hline : isBlankLine line = true) :
    commonIndent (join ['\n'] (before ++ line :: after)) =
      commonIndent (join ['\n'] (before ++ after)) := by
  rw [commonIndent_join hpieces, commonIndent_join (notMem_others hpieces), List.filterMap_append,
    List.filterMap_cons, visibleWidth?, if_pos hline, List.filterMap_append]

theorem commonIndent_insert_visible (hline : isBlankLine line = false)
    (hvisible : ∃ piece ∈ before ++ after, isBlankLine piece = false) :
    commonIndent (join ['\n'] (before ++ line :: after)) =
      min (commonIndent (join ['\n'] (before ++ after))) (indentWidth line) := by
  obtain ⟨piece, hpiece, hwidth⟩ := hvisible
  have hmem : indentWidth piece ∈ (before ++ after).filterMap visibleWidth? :=
    List.mem_filterMap.mpr ⟨piece, hpiece, by simp [visibleWidth?, hwidth]⟩
  rw [List.filterMap_append] at hmem
  rw [commonIndent_join hpieces, commonIndent_join (notMem_others hpieces), List.filterMap_append,
    List.filterMap_cons, visibleWidth?, hline, List.filterMap_append]
  exact least_insert _ (List.ne_nil_of_mem hmem) _

theorem commonIndent_insert_only (hline : isBlankLine line = false)
    (hblank : ∀ piece ∈ before ++ after, isBlankLine piece = true) :
    commonIndent (join ['\n'] (before ++ line :: after)) = indentWidth line := by
  obtain ⟨hbefore, hafter⟩ := List.forall_mem_append.mp hblank
  rw [commonIndent_join hpieces, List.filterMap_append, List.filterMap_cons,
    visibleWidths_blank hbefore, visibleWidths_blank hafter, visibleWidth?, hline]
  rfl

end

/-! ## Dedented pieces -/

/-- What is left of a line when the given indentation is taken off. -/
def outdent (width : Nat) (line : List Char) : List Char :=
  if width = 0 then line else dropTrailing (· == '\r') (dropBytes width line)

theorem outdent_nil (width : Nat) : outdent width [] = [] := by
  rw [outdent, dropBytes_nil]
  split <;> rfl

theorem dropTrailing_concat {p : Char → Bool} {c : Char} (hc : p c = true) (line : List Char) :
    dropTrailing p (line ++ [c]) = dropTrailing p line := by
  simp [dropTrailing, hc]

theorem outdent_return {width : Nat} (hwidth : width ≠ 0) (line : List Char) :
    outdent width (line ++ ['\r']) = outdent width line := by
  rw [outdent, outdent, if_neg hwidth, if_neg hwidth]
  clear hwidth
  induction line generalizing width with
  | nil =>
      cases width with
      | zero => rfl
      | succ width =>
          have hsize : ('\r' : Char).utf8Size ≤ width + 1 := Nat.le_add_left 1 width
          rw [List.nil_append, dropBytes_nil, dropBytes, if_pos hsize, dropBytes_nil]
          exact Nat.succ_ne_zero width
  | cons c rest ih =>
      cases width with
      | zero =>
          rw [dropBytes_zero, dropBytes_zero]
          exact dropTrailing_concat rfl _
      | succ width =>
          rw [List.cons_append, dropBytes, dropBytes]
          · split
            · exact ih
            · rfl
          · exact Nat.succ_ne_zero width
          · exact Nat.succ_ne_zero width

/-- The pieces of which a text consists after the given indentation is taken off. -/
def kept (width : Nat) (pieces : List (List Char)) : List (List Char) :=
  if width = 0 then pieces else shown pieces

/-- A text is dedented piece by piece. -/
theorem dedent_join (hpieces : ∀ piece ∈ pieces, '\n' ∉ piece) {width : Nat}
    (hwidth : commonIndent (join ['\n'] pieces) = width) :
    dedent (join ['\n'] pieces) = join ['\n'] ((kept width pieces).map (outdent width)) := by
  rw [dedent, hwidth]
  by_cases hzero : width = 0
  · have hsame : outdent width = id := by
      funext line
      exact if_pos hzero
    rw [if_pos hzero, kept, if_pos hzero, hsame, List.map_id]
  · have hlines := map_lines_join (fun line => outdent_return hzero line) hpieces
    have houtdent : outdent width = fun line => dropTrailing (· == '\r') (dropBytes width line) :=
      funext fun line => if_neg hzero
    rw [if_neg hzero, kept, if_neg hzero, ← hlines, houtdent]

theorem kept_append (width : Nat) (before : List (List Char)) (hafter : after ≠ []) :
    kept width (before ++ after) = before ++ kept width after := by
  unfold kept
  split
  · rfl
  · exact shown_append before hafter

theorem kept_nil (width : Nat) : kept width [] = [] := by
  simp [kept, shown]

/-- The first piece is kept unless it is the only one and empty. -/
theorem kept_cons (width : Nat) (line : List Char) (after : List (List Char)) :
    kept width (line :: after) = line :: kept width after ∨
      after = [] ∧ line = [] ∧ kept width (line :: after) = [] := by
  by_cases hnone : after = []
  · subst hnone
    rw [kept_nil, kept, shown_singleton]
    split
    · exact .inl rfl
    · split
      next hline => exact .inr ⟨rfl, hline, rfl⟩
      next => exact .inl rfl
  · exact .inl (kept_append width [line] hnone)

theorem kept_subset {width : Nat} (hline : line ∈ kept width pieces) : line ∈ pieces := by
  unfold kept shown at hline
  split at hline
  · exact hline
  · split at hline
    · exact (List.dropLast_sublist _).mem hline
    · exact hline

/-- Only an empty piece may be left out. -/
theorem mem_kept {width : Nat} (hline : line ∈ pieces) (hne : line ≠ []) :
    line ∈ kept width pieces := by
  unfold kept shown
  split
  · exact hline
  · split
    next hlast =>
      obtain ⟨rest, rfl⟩ := List.getLast?_eq_some_iff.mp hlast
      rw [List.dropLast_concat]
      exact (List.mem_append.mp hline).resolve_right fun hmem => hne (List.mem_singleton.mp hmem)
    next => exact hline

end SchemaGuard.Text
