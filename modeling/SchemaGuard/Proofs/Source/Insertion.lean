import SchemaGuard.Proofs.Source.FirstLine

/-! # Remarks that are added to a source

A remark that is added between two lines of a source leaves its program as it is, if it is blank or
is indented at least as far as all lines of the source are. A comment with less indentation takes
part in the indentation that all lines share, so the lines around it keep some of theirs, and the
source is refused.
-/

namespace SchemaGuard

open Outcome Text SchemaGuard.Parser

namespace Lexer

variable {before after : List (List Char)} {line : List Char} {width : Nat} {final : State}

/-! ## Dedented texts -/

/-- A last line end that is dropped when indentation is taken off adds no token. -/
theorem tokens_kept {ended : State}
    (hscan : scan {} (join ['\n'] ((kept width before).map (outdent width))) = .ok final)
    (hbrackets : final.brackets = 0)
    (hended : scan {} (join ['\n'] (before.map (outdent width))) = .ok ended) :
    ended.tokens = final.tokens := by
  unfold kept shown at hscan
  split at hscan
  · cases hended.symm.trans hscan
    rfl
  · split at hscan
    next hlast =>
      obtain ⟨rest, rfl⟩ := List.getLast?_eq_some_iff.mp hlast
      rw [List.dropLast_concat] at hscan
      rw [List.map_append, List.map_singleton, outdent_nil] at hended
      by_cases hnone : rest = []
      · subst hnone
        cases hended.symm.trans hscan
        rfl
      · rw [join_snoc (by simpa using hnone), scan_line hscan hbrackets, scan] at hended
        cases hended
        exact final.tokens_nextLine
    next =>
      cases hended.symm.trans hscan
      rfl

/-- Where the same indentation is taken off as before, a remark changes no token. -/
theorem scan_dedent_remark (hpieces : ∀ piece ∈ before ++ line :: after, '\n' ∉ piece)
    (hcommon : commonIndent (join ['\n'] (before ++ after)) = width)
    (hcommon' : commonIndent (join ['\n'] (before ++ line :: after)) = width)
    (hremark : IsRemark (outdent width line))
    (hends : EndsLine (join ['\n'] (before.map (outdent width))))
    (hscan : scan {} (dedent (join ['\n'] (before ++ after))) = .ok final)
    (hbrackets : final.brackets = 0) :
    ∃ final', scan {} (dedent (join ['\n'] (before ++ line :: after))) = .ok final' ∧
      final'.tokens = final.tokens := by
  rw [dedent_join (notMem_others hpieces) hcommon] at hscan
  rw [dedent_join hpieces hcommon', kept_append width before (List.cons_ne_nil line after),
    List.map_append]
  by_cases hnone : after = []
  · -- The remark comes last, where it may be dropped with the line end before it.
    subst hnone
    rw [List.append_nil] at hscan
    have hplace := hends
    obtain ⟨ended, hended, -⟩ := hends
    rw [← tokens_kept hscan hbrackets hended]
    obtain hline | ⟨-, -, hline⟩ := kept_cons width line []
    · rw [hline, kept_nil]
      exact scan_insert_remark hplace hremark (by rwa [List.map_nil, List.append_nil])
    · rw [hline, List.map_nil, List.append_nil]
      exact ⟨ended, hended, rfl⟩
  · have hline : kept width (line :: after) = line :: kept width after :=
      kept_append width [line] hnone
    rw [kept_append width before hnone, List.map_append] at hscan
    rw [hline, List.map_cons]
    exact scan_insert_remark hends hremark hscan

/-- Blank lines that are scanned are of blanks that are passed over between tokens. -/
theorem skipped_of_scan_join {pieces : List (List Char)} (hpieces : ∀ piece ∈ pieces, '\n' ∉ piece)
    (hblank : ∀ piece ∈ pieces, isBlankLine piece = true)
    (hscan : scan {} (join ['\n'] pieces) = .ok final) :
    ∀ piece ∈ pieces, ∀ c ∈ piece, isSkipped c = true := by
  have hjoined : ∀ c ∈ join ['\n'] pieces, Unicode.isBlank c = true := by
    intro c hc
    rcases mem_join hc with rfl | ⟨piece, hpiece, hc⟩
    · decide
    · exact List.all_eq_true.mp (hblank piece hpiece) c hc
  intro piece hpiece c hc
  have hscan : scan {} (join ['\n'] pieces ++ []) = .ok final := by rwa [List.append_nil]
  refine (skipped_of_scan hjoined hscan c (mem_join_of_mem hpiece hc)).resolve_right ?_
  rintro rfl
  exact hpieces piece hpiece hc

/-- A comment in a source that has no visible line changes no token. -/
theorem scan_dedent_only (hpieces : ∀ piece ∈ before ++ line :: after, '\n' ∉ piece)
    (hblank : ∀ piece ∈ before ++ after, isBlankLine piece = true)
    (hline : isBlankLine line = false) (hremark : IsRemark line)
    (hscan : scan {} (dedent (join ['\n'] (before ++ after))) = .ok final) :
    ∃ final', scan {} (dedent (join ['\n'] (before ++ line :: after))) = .ok final' ∧
      final'.tokens = final.tokens := by
  have hothers := notMem_others hpieces
  have hcommon := commonIndent_blank hothers hblank
  have hcommon' := commonIndent_insert_only hpieces hline hblank
  have hdedent := dedent_join hothers hcommon
  have hwhole : join ['\n'] ((kept 0 (before ++ after)).map (outdent 0)) =
      join ['\n'] (before ++ after) := by
    rw [← hdedent, dedent, hcommon]
    rfl
  rw [hdedent, hwhole] at hscan
  have hskipped := skipped_of_scan_join hothers hblank hscan
  -- With the comment or without it, nothing is left but remarks.
  have hblanks : ∀ piece ∈ before ++ after, IsRemark piece :=
    fun piece hpiece => .blank (hskipped piece hpiece)
  have hremarks : ∀ piece ∈ (kept (indentWidth line) (before ++ line :: after)).map
      (outdent (indentWidth line)), IsRemark piece := by
    intro piece hpiece
    obtain ⟨inner, hinner, rfl⟩ := List.mem_map.mp hpiece
    rcases mem_inserted.mp (kept_subset hinner) with rfl | hother
    · exact hremark.outdent (.inr (Nat.le_refl _))
    · exact (hblanks inner hother).outdent (.inl (hblank inner hother))
  obtain ⟨first, hfirst, hlexemes, hindents⟩ := scan_remarks hblanks State.beginsLine_start
  obtain ⟨last, hlast, hlexemes', hindents'⟩ := scan_remarks hremarks State.beginsLine_start
  cases hfirst.symm.trans hscan
  refine ⟨last, ?_, State.tokens_congr ?_ ?_⟩
  · rw [dedent_join hpieces hcommon', hlast]
  · rw [hlexemes, hlexemes']
  · rw [hindents, hindents']

/-- A comment that is indented as far as the visible lines are changes no token. -/
theorem scan_dedent_comment (hpieces : ∀ piece ∈ before ++ line :: after, '\n' ∉ piece)
    (hopening : opening? line = some '#')
    (hwidth : commonIndent (join ['\n'] (before ++ after)) ≤ indentWidth line)
    (hends : EndsLine (join ['\n'] (before.map
      (outdent (commonIndent (join ['\n'] (before ++ after)))))))
    (hscan : scan {} (dedent (join ['\n'] (before ++ after))) = .ok final)
    (hbrackets : final.brackets = 0) :
    ∃ final', scan {} (dedent (join ['\n'] (before ++ line :: after))) = .ok final' ∧
      final'.tokens = final.tokens := by
  have hline := isBlankLine_of_opening hopening
  have hremark := IsRemark.of_opening hopening (hpieces line (mem_inserted.mpr (.inl rfl)))
  by_cases hvisible : ∃ piece ∈ before ++ after, isBlankLine piece = false
  · have hcommon' := commonIndent_insert_visible hpieces hline hvisible
    rw [Nat.min_eq_left hwidth] at hcommon'
    exact scan_dedent_remark hpieces rfl hcommon' (hremark.outdent (.inr hwidth)) hends hscan
      hbrackets
  · refine scan_dedent_only hpieces (fun piece hpiece => ?_) hline hremark hscan
    exact eq_true_of_ne_false fun hpiece' => hvisible ⟨piece, hpiece, hpiece'⟩

/-- A blank line that is scanned has only blanks that are passed over between tokens, as far as it
is not taken off with the indentation. -/
theorem skipped_of_scan_dedent (hpieces : ∀ piece ∈ before ++ line :: after, '\n' ∉ piece)
    (hcommon' : commonIndent (join ['\n'] (before ++ line :: after)) = width)
    (hline : isBlankLine line = true) (hends : EndsLine (join ['\n'] (before.map (outdent width))))
    (hscan : scan {} (dedent (join ['\n'] (before ++ line :: after))) = .ok final) :
    ∀ c ∈ outdent width line, isSkipped c = true := by
  obtain ⟨-, hnone, -⟩ | hkept := (kept_cons width line after).symm
  · rw [hnone, outdent_nil]
    simp
  obtain ⟨ended, hended, hbrackets⟩ := hends
  obtain ⟨state, _, _, hrest⟩ := scan_join_append hended hbrackets
  obtain ⟨tail, htail⟩ :=
    join_cons_append (outdent width line) ((kept width after).map (outdent width))
  rw [dedent_join hpieces hcommon', kept_append width before (List.cons_ne_nil line after), hkept,
    List.map_append, List.map_cons, hrest _ (List.cons_ne_nil _ _), htail] at hscan
  refine skipped_of_scan_line (isBlankLine_outdent width hline) (fun hend => ?_) hscan
  exact hpieces line (mem_inserted.mpr (.inl rfl)) (mem_of_mem_outdent hend)

/-- A comment that is less indented than the visible lines leaves indentation before the first
token. -/
theorem scan_dedent_shallow (hpieces : ∀ piece ∈ before ++ line :: after, '\n' ∉ piece)
    (hopening : opening? line = some '#')
    (hwidth : indentWidth line < commonIndent (join ['\n'] (before ++ after)))
    (hcode : ∃ piece ∈ before ++ after, isBlankLine piece = false ∧ opening? piece ≠ some '#')
    (hreturn : ∀ piece ∈ before ++ after, isBlankLine piece = false → opening? piece ≠ some '\r')
    (hscan : scan {} (dedent (join ['\n'] (before ++ line :: after))) = .ok final) :
    ∃ first, [⟨.indent, first⟩] <:+ final.lexemes := by
  have hothers := notMem_others hpieces
  have hremark := IsRemark.of_opening hopening (hpieces line (mem_inserted.mpr (.inl rfl)))
  have hvisible : ∀ piece ∈ before ++ after, isBlankLine piece = false →
      opening? piece = some '#' ∧ IsRemark (outdent (indentWidth line) piece) ∨
        IsIndented (outdent (indentWidth line) piece) := by
    intro piece hpiece hpiece'
    exact outdent_visible (hothers piece hpiece) hpiece' (hreturn piece hpiece hpiece')
      (Nat.lt_of_lt_of_le hwidth (commonIndent_le_piece hothers hpiece hpiece'))
  obtain ⟨code, hmem, hcode, hnot⟩ := hcode
  have hcommon' := commonIndent_insert_visible hpieces (isBlankLine_of_opening hopening)
    ⟨code, hmem, hcode⟩
  rw [Nat.min_eq_right (Nat.le_of_lt hwidth)] at hcommon'
  rw [dedent_join hpieces hcommon'] at hscan
  refine scan_indented_first State.beginsLine_start rfl rfl ?_ ?_ ?_ hscan
  · refine List.forall_mem_map.mpr fun piece hpiece hend => ?_
    exact hpieces piece (kept_subset hpiece) (mem_of_mem_outdent hend)
  · refine List.forall_mem_map.mpr fun piece hpiece => ?_
    rcases mem_inserted.mp (kept_subset hpiece) with rfl | hother
    · exact .inr (.inl (hremark.outdent (.inr (Nat.le_refl _))))
    · cases hkind : isBlankLine piece with
      | true => exact .inl (isBlankLine_outdent _ hkind)
      | false => exact .inr ((hvisible piece hother hkind).imp And.right id)
  · have hindented := (hvisible code hmem hcode).resolve_left fun hcomment => hnot hcomment.1
    refine ⟨_, List.mem_map_of_mem (mem_kept (mem_inserted.mpr (.inr hmem)) ?_), hindented⟩
    rintro rfl
    cases hcode

end Lexer

open Lexer

/-- A blank line or a comment is added to a source at a place where a line may begin. With a blank
line the program stays the same, unless the line holds blanks that may not stand between tokens.
With a comment it stays the same if the comment is indented at least as far as all visible lines
are. A comment with less indentation leaves the other lines indented when the indentation that all
lines share is taken off, so a source with a line of code is then refused. -/
theorem Program.parse_insert_remark {limits : ParseLimits} {source source' : String}
    {before after : List (List Char)} {line : List Char} {program : Program}
    (hpieces : ∀ piece ∈ before ++ line :: after, '\n' ∉ piece)
    (hsource : source.toList = join ['\n'] (before ++ after))
    (hsource' : source'.toList = join ['\n'] (before ++ line :: after))
    (hparse : Program.parse limits source = .ok program)
    (hends : EndsLine (join ['\n'] (before.map (outdent (commonIndent source.toList)))))
    (hlength : (String.ofList (dedent source'.toList)).utf8ByteSize ≤ limits.maxLength) :
    (isBlankLine line = true → (Program.parse limits source' = .ok program ↔
      ∀ c ∈ outdent (commonIndent source.toList) line, isSkipped c = true)) ∧
    (opening? line = some '#' →
      (commonIndent source.toList ≤ indentWidth line →
        Program.parse limits source' = .ok program) ∧
      (indentWidth line < commonIndent source.toList →
        (∃ piece ∈ before ++ after, isBlankLine piece = false ∧ opening? piece ≠ some '#') →
        (∀ piece ∈ before ++ after, isBlankLine piece = false → opening? piece ≠ some '\r') →
        ∀ other, Program.parse limits source' ≠ .ok other)) := by
  obtain ⟨final, _, hscan, hprogram⟩ := Program.parse_eq_ok.mp hparse
  have hbrackets := Program.brackets_closed hscan hprogram
  rw [hsource] at hends hscan ⊢
  have hsame : (∃ final', scan {} (dedent (join ['\n'] (before ++ line :: after))) = .ok final' ∧
      final'.tokens = final.tokens) → Program.parse limits source' = .ok program := by
    rintro ⟨final', hscan', htokens⟩
    refine Program.parse_eq_ok.mpr ⟨final', hlength, by rwa [hsource'], ?_⟩
    exact program_relined hscan htokens hprogram
  refine ⟨fun hline => ⟨fun hparse' => ?_, fun hskipped => ?_⟩, fun hopening => ⟨fun hwidth => ?_,
    fun hwidth hcode hreturn other hparse' => ?_⟩⟩
  · obtain ⟨final', _, hscan', _⟩ := Program.parse_eq_ok.mp hparse'
    rw [hsource'] at hscan'
    exact skipped_of_scan_dedent hpieces (commonIndent_insert_blank hpieces hline) hline hends
      hscan'
  · exact hsame (scan_dedent_remark hpieces rfl (commonIndent_insert_blank hpieces hline)
      (.blank hskipped) hends hscan hbrackets)
  · exact hsame (scan_dedent_comment hpieces hopening hwidth hends hscan hbrackets)
  · obtain ⟨final', _, hscan', hprogram'⟩ := Program.parse_eq_ok.mp hparse'
    rw [hsource'] at hscan'
    obtain ⟨first, hfirst⟩ := scan_dedent_shallow hpieces hopening hwidth hcode hreturn hscan'
    exact program_indented hfirst _ other hprogram'

/-- A blank line and a comment between two lines of a block leave the program as it is, where the
comment is indented as far as the block's first line; without that indentation nothing is read. -/
theorem Program.parse_remark_in_block :
    ∃ program, Program.parse {} "  if a:\n    b = 1\n    c = 2" = .ok program ∧
      Program.parse {} "  if a:\n    b = 1\n \t\n    c = 2" = .ok program ∧
      Program.parse {} "  if a:\n    b = 1\n  # so far\n    c = 2" = .ok program ∧
      ∀ other, Program.parse {} "  if a:\n    b = 1\n# so far\n    c = 2" ≠ .ok other := by
  let before := ["  if a:".toList, "    b = 1".toList]
  let after := ["    c = 2".toList]
  have hread : (Program.parse {} "  if a:\n    b = 1\n    c = 2").isOk := by decide +kernel
  have hwidth : commonIndent "  if a:\n    b = 1\n    c = 2".toList = 2 := by decide +kernel
  have hends : EndsLine (join ['\n'] (before.map (outdent 2))) := by
    have hscan : (scan {} (join ['\n'] (before.map (outdent 2)))).map State.brackets = .ok 0 := by
      decide +kernel
    exact map_eq_ok.mp hscan
  cases hparse : Program.parse {} "  if a:\n    b = 1\n    c = 2" with
  | error error =>
      rw [hparse] at hread
      cases hread
  | ok program =>
      have hinsert (line : List Char) (source' : String)
          (hpieces : ∀ piece ∈ before ++ line :: after, '\n' ∉ piece)
          (hsource' : source'.toList = join ['\n'] (before ++ line :: after))
          (hlength : (String.ofList (dedent source'.toList)).utf8ByteSize ≤ 16384) :=
        Program.parse_insert_remark hpieces (by decide +kernel) hsource' hparse
          (hwidth.symm ▸ hends) hlength
      rw [hwidth] at hinsert
      refine ⟨program, rfl, ?_, ?_, ?_⟩
      · exact ((hinsert [' ', '\t'] _ (by decide) (by decide +kernel)
          (by decide +kernel)).1 (by decide)).mpr (List.all_eq_true.mp (by decide))
      · exact ((hinsert "  # so far".toList _ (by decide +kernel) (by decide +kernel)
          (by decide +kernel)).2 (by decide)).1 (by decide)
      · exact ((hinsert "# so far".toList _ (by decide +kernel) (by decide +kernel)
          (by decide +kernel)).2 (by decide)).2 (by decide) (by decide) (by decide)

end SchemaGuard
