import SchemaGuard.Proofs.Validator.ItemScreen

/-! # The textual screen and dedentation

The textual screen asks for blanks between words and not for how many there are. Dedentation takes
blanks away only where a line begins or ends, next to other blanks, so a module that a source uses
is still used when the source is dedented and other lines come after it.
-/

namespace SchemaGuard

namespace Screen

/-- Whether a text begins with a blank. -/
def beginsBlank (text : List Char) : Bool :=
  text.head?.any Unicode.isBlank

/-- A text and another one that begins with the same characters but for some blanks, each of which
stood next to a blank that is left or at the start. The flag tells whether a blank, or the start,
comes before both. -/
inductive Tightened : Bool → List Char → List Char → Prop
  | done {afterBlank : Bool} {dense : List Char}
      (hblank : afterBlank = true ∨ beginsBlank dense = true) : Tightened afterBlank [] dense
  | keep {afterBlank : Bool} {c : Char} {raw dense : List Char}
      (hrest : Tightened (Unicode.isBlank c) raw dense) :
      Tightened afterBlank (c :: raw) (c :: dense)
  | skip {afterBlank : Bool} {c : Char} {raw dense : List Char} (hc : Unicode.isBlank c = true)
      (hblank : afterBlank = true ∨ beginsBlank dense = true)
      (hrest : Tightened afterBlank raw dense) : Tightened afterBlank (c :: raw) dense

namespace Tightened

variable {afterBlank : Bool} {raw dense : List Char}

theorem cons {c : Char} {rest : List Char} (hc : Unicode.isBlank c = false)
    (htight : Tightened afterBlank (c :: rest) dense) :
    ∃ rest', dense = c :: rest' ∧ Tightened false rest rest' := by
  cases htight with
  | keep hrest =>
      rw [hc] at hrest
      exact ⟨_, rfl, hrest⟩
  | skip hblank => simp [hc] at hblank

theorem append {word rest : List Char} (hword : ∀ c ∈ word, Unicode.isBlank c = false)
    (htight : Tightened false (word ++ rest) dense) :
    ∃ rest', dense = word ++ rest' ∧ Tightened false rest rest' := by
  induction word generalizing dense with
  | nil => exact ⟨dense, rfl, htight⟩
  | cons c word ih =>
      obtain ⟨hc, hword⟩ := List.forall_mem_cons.mp hword
      obtain ⟨others, rfl, hothers⟩ := htight.cons hc
      obtain ⟨rest', rfl, hrest⟩ := ih hword hothers
      exact ⟨rest', rfl, hrest⟩

/-- A word is left as it is. -/
theorem word {word rest : List Char} (hword : ∀ c ∈ word, Unicode.isBlank c = false)
    (hne : word ≠ []) (htight : Tightened afterBlank (word ++ rest) dense) :
    ∃ rest', dense = word ++ rest' ∧ Tightened false rest rest' := by
  cases word with
  | nil => exact absurd rfl hne
  | cons c word =>
      obtain ⟨hc, hword⟩ := List.forall_mem_cons.mp hword
      obtain ⟨others, rfl, hothers⟩ := htight.cons hc
      obtain ⟨rest', rfl, hrest⟩ := hothers.append hword
      exact ⟨rest', rfl, hrest⟩

/-- What stands after some blanks still does. -/
theorem visible {c : Char} {rest : List Char} (htight : Tightened afterBlank raw dense)
    (hraw : raw.dropWhile Unicode.isBlank = c :: rest) :
    ∃ rest', dense.dropWhile Unicode.isBlank = c :: rest' ∧ Tightened false rest rest' := by
  induction htight with
  | done => cases hraw
  | @keep _ d _ _ hrest ih =>
      rw [List.dropWhile_cons] at hraw ⊢
      split at hraw
      next hd =>
        rw [if_pos hd]
        exact ih hraw
      next hd =>
        rw [if_neg hd]
        cases hraw
        rw [Bool.eq_false_of_not_eq_true hd] at hrest
        exact ⟨_, rfl, hrest⟩
  | skip hc _ _ ih =>
      rw [List.dropWhile_cons, if_pos hc] at hraw
      exact ih hraw

/-- So does a word after some blanks. -/
theorem word_after {word rest : List Char} (hword : ∀ c ∈ word, Unicode.isBlank c = false)
    (hne : word ≠ []) (htight : Tightened afterBlank raw dense)
    (hraw : raw.dropWhile Unicode.isBlank = word ++ rest) :
    ∃ rest', dense.dropWhile Unicode.isBlank = word ++ rest' ∧ Tightened false rest rest' := by
  cases word with
  | nil => exact absurd rfl hne
  | cons c word =>
      obtain ⟨_, hword⟩ := List.forall_mem_cons.mp hword
      obtain ⟨others, hdense, hothers⟩ := htight.visible hraw
      obtain ⟨rest', rfl, hrest⟩ := hothers.append hword
      exact ⟨rest', hdense, hrest⟩

/-- After a character that is no blank, a blank is left wherever there was one. -/
theorem begins (htight : Tightened false raw dense) :
    dense.head? = raw.head? ∨ beginsBlank dense = true := by
  cases htight with
  | done hblank => exact .inr (by simpa using hblank)
  | keep => exact .inl rfl
  | skip _ hblank => exact .inr (by simpa using hblank)

theorem beginsBlank {c : Char} {rest : List Char} (htight : Tightened false (c :: rest) dense)
    (hc : Unicode.isBlank c = true) :
    ∃ d rest', dense = d :: rest' ∧ Unicode.isBlank d = true := by
  have hblank : Screen.beginsBlank dense = true := by
    obtain hhead | hblank := htight.begins
    · rw [Screen.beginsBlank, hhead]
      exact hc
    · exact hblank
  cases dense with
  | nil => cases hblank
  | cons d rest' => exact ⟨d, rest', rfl, hblank⟩

end Tightened

/-- A word that ends before a character still ends there. -/
theorem Tightened.ends {raw dense : List Char} (htight : Tightened false raw dense)
    (hraw : isWordChar raw.head? = false) : isWordChar dense.head? = false := by
  obtain hhead | hblank := htight.begins
  · rwa [hhead]
  · cases dense with
    | nil => cases hblank
    | cons d rest => exact (Unicode.of_isBlank hblank).2

/-! ## Uses of modules -/

section

variable {name : List Char} {afterBlank : Bool} {raw dense : List Char}
  (hname : ∀ c ∈ name, Unicode.isBlank c = false) (hne : name ≠ [])

include hname hne

theorem namesAfter_tightened {word : List Char} (hword : ∀ c ∈ word, Unicode.isBlank c = false)
    (hwordNe : word ≠ []) (htight : Tightened afterBlank raw dense)
    (hnames : namesAfter word name raw = true) : namesAfter word name dense = true := by
  unfold namesAfter at hnames
  split at hnames
  next c rest hstart =>
    obtain ⟨hc, hnames⟩ := Bool.and_eq_true_iff.mp hnames
    rw [dropStart?_eq_some] at hstart
    subst hstart
    obtain ⟨gap, rfl, hgap⟩ := htight.word hword hwordNe
    obtain ⟨d, rest', rfl, hd⟩ := hgap.beginsBlank hc
    split at hnames
    next after hafter =>
      rw [dropStart?_eq_some] at hafter
      have hraw : (c :: rest).dropWhile Unicode.isBlank = name ++ after := by
        rwa [List.dropWhile_cons, if_pos hc]
      obtain ⟨after', hdense, hend⟩ := hgap.word_after hname hne hraw
      rw [List.dropWhile_cons, if_pos hd] at hdense
      have hends := hend.ends (by simpa using hnames)
      rw [namesAfter, dropStart?_eq_some.mpr rfl]
      dsimp only
      rw [dropStart?_eq_some.mpr hdense]
      simp [hd, hends]
    next => cases hnames
  next => cases hnames

theorem selectsFrom_tightened (htight : Tightened afterBlank raw dense)
    (hselects : selectsFrom name raw = true) : selectsFrom name dense = true := by
  unfold selectsFrom at hselects
  split at hselects
  next rest hstart =>
    rw [dropStart?_eq_some] at hstart
    subst hstart
    obtain ⟨rest', rfl, hrest⟩ := htight.word hname hne
    obtain ⟨others, hdot⟩ := List.head?_eq_some_iff.mp (beq_iff_eq.mp hselects)
    obtain ⟨others', hdot', _⟩ := hrest.visible hdot
    rw [selectsFrom, dropStart?_eq_some.mpr rfl]
    dsimp only
    rw [hdot']
    rfl
  next => cases hselects

/-- No use of a module begins with a blank. -/
theorem usesHere_blank {c : Char} (hc : Unicode.isBlank c = true) (before : Option Char)
    (rest : List Char) : usesHere name before (c :: rest) = false := by
  have hstart : ∀ word : List Char, (∀ d ∈ word, Unicode.isBlank d = false) → word ≠ [] →
      dropStart? word (c :: rest) = none := by
    intro word hword hwordNe
    cases word with
    | nil => exact absurd rfl hwordNe
    | cons d word =>
        have hd : d ≠ c := by
          rintro rfl
          rw [hword d List.mem_cons_self] at hc
          cases hc
        rw [dropStart?, if_neg hd]
  have hword : ∀ word ∈ importWords, dropStart? word (c :: rest) = none := fun word hword =>
    hstart word (importWords_visible hword).2 (importWords_visible hword).1
  have himport : dropStart? ['i', 'm', 'p', 'o', 'r', 't'] (c :: rest) = none :=
    hword _ List.mem_cons_self
  have hfrom : dropStart? ['f', 'r', 'o', 'm'] (c :: rest) = none :=
    hword _ (List.mem_cons_of_mem _ List.mem_cons_self)
  rw [usesHere, namesAfter, namesAfter, selectsFrom, himport, hfrom, hstart name hname hne]
  simp

theorem usesHere_tightened {before before' : Option Char} (htight : Tightened afterBlank raw dense)
    (hword : isWordChar before = false → isWordChar before' = false)
    (hdot : before ≠ some '.' → before' ≠ some '.') (huses : usesHere name before raw = true) :
    usesHere name before' dense = true := by
  have hnames : ∀ word ∈ importWords, namesAfter word name raw = true →
      namesAfter word name dense = true := fun word hword =>
    namesAfter_tightened hname hne (importWords_visible hword).2 (importWords_visible hword).1
      htight
  unfold usesHere at huses ⊢
  simp only [Bool.and_eq_true, Bool.or_eq_true, Bool.not_eq_true', bne_iff_ne] at huses ⊢
  obtain ⟨hbefore, (himport | hfrom) | ⟨hpoint, hselects⟩⟩ := huses
  · exact ⟨hword hbefore, .inl (.inl (hnames _ List.mem_cons_self himport))⟩
  · exact ⟨hword hbefore, .inl (.inr
      (hnames _ (List.mem_cons_of_mem _ List.mem_cons_self) hfrom))⟩
  · exact ⟨hword hbefore, .inr ⟨hdot hpoint, selectsFrom_tightened hname hne htight hselects⟩⟩

/-- A module that a text uses is still used with fewer blanks. What comes before the two texts is
the same, unless a blank or nothing comes before the second. -/
theorem usesFrom_tightened (htight : Tightened afterBlank raw dense) {before before' : Option Char}
    (hfree : afterBlank = true → isWordChar before' = false ∧ before' ≠ some '.')
    (hsame : afterBlank = false → before' = before ∨ beginsBlank dense = true)
    (huses : usesFrom name before raw = true) : usesFrom name before' dense = true := by
  induction htight generalizing before before' with
  | done => cases huses
  | @keep afterBlank c raw dense hrest ih =>
      rw [usesFrom, Bool.or_eq_true] at huses ⊢
      by_cases hc : Unicode.isBlank c = true
      · rw [usesHere_blank hname hne hc] at huses
        have hpoint : c ≠ '.' := by
          rintro rfl
          cases hc
        refine .inr (ih (fun _ => ⟨(Unicode.of_isBlank hc).2, ?_⟩) (fun _ => .inl rfl) ?_)
        · simpa using hpoint
        · simpa using huses
      · have htight : Tightened afterBlank (c :: raw) (c :: dense) := .keep hrest
        refine huses.imp (fun hhere => ?_) (ih (fun hblank => absurd hblank hc) fun _ => .inl rfl)
        cases hflag : afterBlank with
        | true =>
            obtain ⟨hword, hpoint⟩ := hfree hflag
            exact usesHere_tightened hname hne htight (fun _ => hword) (fun _ => hpoint) hhere
        | false =>
            obtain rfl | hblank := hsame hflag
            · exact usesHere_tightened hname hne htight id id hhere
            · exact absurd hblank hc
  | skip hc hblank _ ih =>
      rw [usesFrom, usesHere_blank hname hne hc, Bool.false_or] at huses
      refine ih hfree (fun hflag => .inr ?_) huses
      simpa [hflag] using hblank

end

theorem deniedModules_visible {name : String} (hname : name ∈ deniedModules) :
    name.toList ≠ [] ∧ ∀ c ∈ name.toList, Unicode.isBlank c = false := by
  have hvisible : deniedModules.all (fun name =>
      !name.toList.isEmpty && name.toList.all (!Unicode.isBlank ·)) = true := by decide
  simpa using List.all_eq_true.mp hvisible name hname

/-- A module that a source uses is used when its blanks are fewer and more text comes after it. -/
theorem uses_tightened {name : String} (hname : name ∈ deniedModules) {raw dense : List Char}
    (htight : Tightened true raw dense) (huses : uses name raw = true) :
    uses name dense = true := by
  obtain ⟨hne, hvisible⟩ := deniedModules_visible hname
  exact usesFrom_tightened hvisible hne htight (fun _ => ⟨rfl, nofun⟩) nofun huses

end Screen

/-- A source passes the textual screen when a text with fewer blanks and more text after it does. -/
theorem Guard.screenSource_tightened {guard : Guard} {source : String} {dense : List Char}
    (htight : Screen.Tightened true source.toList dense)
    (hscreen : guard.screenSource (String.ofList dense) = .ok ()) :
    guard.screenSource source = .ok () := by
  unfold screenSource at hscreen ⊢
  split
  next henabled =>
    rw [if_pos henabled, String.toList_ofList] at hscreen
    split at hscreen
    next => cases hscreen
    next hnone =>
      have hunused : deniedModules.find? (fun name => Screen.uses name source.toList) = none := by
        rw [List.find?_eq_none] at hnone ⊢
        exact fun name hname huses => hnone name hname (Screen.uses_tightened hname htight huses)
      rw [hunused]
  next => rfl

/-! ## Dedented text -/

namespace Text

/-- A text and its lines without their ends, each of which is a line feed with blanks before it. -/
inductive Lined : List Char → List (List Char) → Prop
  | nil : Lined [] []
  | last (line : List Char) : Lined line [line]
  | cons {line blanks text : List Char} {rest : List (List Char)}
      (hblanks : ∀ c ∈ blanks, Unicode.isBlank c = true) (hrest : Lined text rest) :
      Lined (line ++ (blanks ++ '\n' :: text)) (line :: rest)

theorem dropReturn_eq (line : List Char) :
    ∃ blanks, line = dropReturn line ++ blanks ∧ ∀ c ∈ blanks, Unicode.isBlank c = true := by
  unfold dropReturn
  split
  next hreturn =>
    refine ⟨['\r'], (List.dropLast_append_getLast? _ hreturn).symm, ?_⟩
    have hblank : Unicode.isBlank '\r' = true := by decide
    simpa using hblank
  next => exact ⟨[], (List.append_nil line).symm, by simp⟩

theorem linesFrom_lined (opened text : List Char) :
    Lined (opened.reverse ++ text) (linesFrom opened text) := by
  induction text generalizing opened with
  | nil =>
      rw [List.append_nil]
      cases opened with
      | nil => exact .nil
      | cons c opened => exact .last _
  | cons c text ih =>
      rw [linesFrom]
      split
      next hline =>
        subst hline
        obtain ⟨blanks, hreverse, hblanks⟩ := dropReturn_eq opened.reverse
        have hlined : Lined (dropReturn opened.reverse ++ (blanks ++ '\n' :: text)) _ :=
          .cons hblanks (ih [])
        rwa [← List.append_assoc, ← hreverse] at hlined
      next =>
        have hlined := ih (c :: opened)
        rwa [List.reverse_cons, List.append_assoc] at hlined

theorem lines_lined (text : List Char) : Lined text (lines text) :=
  linesFrom_lined [] text

theorem of_indentWidth {width : Nat} {c : Char} {rest : List Char}
    (hwidth : width + 1 ≤ indentWidth (c :: rest)) :
    Unicode.isBlank c = true ∧ c.utf8Size = 1 ∧ width ≤ indentWidth rest := by
  unfold indentWidth at hwidth
  rw [List.takeWhile_cons] at hwidth
  split at hwidth
  next hc =>
    have hindent : c = ' ' ∨ c = '\t' := by simpa [isIndent] using hc
    have hrest : width ≤ indentWidth rest := Nat.le_of_succ_le_succ hwidth
    obtain rfl | rfl := hindent
    · exact ⟨by decide, by decide, hrest⟩
    · exact ⟨by decide, by decide, hrest⟩
  next => exact absurd hwidth (Nat.not_succ_le_zero width)

theorem dropBytes_succ (width : Nat) (c : Char) (rest : List Char) :
    dropBytes (width + 1) (c :: rest) =
      if c.utf8Size ≤ width + 1 then dropBytes (width + 1 - c.utf8Size) rest else [] := rfl

/-- What is cut off the start of a line is blank when the line is, or when no more is cut off than
the line is indented. -/
theorem dropBytes_eq {width : Nat} {line : List Char}
    (hline : isBlankLine line = true ∨ width ≤ indentWidth line) :
    ∃ blanks, line = blanks ++ dropBytes width line ∧
      ∀ c ∈ blanks, Unicode.isBlank c = true := by
  induction line generalizing width with
  | nil => exact ⟨[], by cases width <;> rfl, by simp⟩
  | cons c rest ih =>
      cases width with
      | zero => exact ⟨[], rfl, by simp⟩
      | succ width =>
          -- A space and a tab are one byte long; a blank line may hold longer blanks.
          obtain hblank | hwidth := hline
          · obtain ⟨hc, hrest⟩ := Bool.and_eq_true_iff.mp hblank
            rw [dropBytes_succ]
            split
            · obtain ⟨blanks, hcut, hblanks⟩ := ih (.inl hrest)
              exact ⟨c :: blanks, congrArg (c :: ·) hcut, List.forall_mem_cons.mpr ⟨hc, hblanks⟩⟩
            · exact ⟨c :: rest, (List.append_nil _).symm, List.all_eq_true.mp hblank⟩
          · obtain ⟨hc, hsize, hrest⟩ := of_indentWidth hwidth
            rw [dropBytes_succ, hsize, if_pos (Nat.succ_le_succ (Nat.zero_le width))]
            obtain ⟨blanks, hcut, hblanks⟩ := ih (.inr hrest)
            exact ⟨c :: blanks, congrArg (c :: ·) hcut, List.forall_mem_cons.mpr ⟨hc, hblanks⟩⟩

theorem dropTrailing_eq {p : Char → Bool} (hp : ∀ c, p c = true → Unicode.isBlank c = true)
    (line : List Char) :
    ∃ blanks, line = dropTrailing p line ++ blanks ∧ ∀ c ∈ blanks, Unicode.isBlank c = true := by
  refine ⟨(line.reverse.takeWhile p).reverse, ?_, fun c hc => ?_⟩
  · rw [dropTrailing, ← List.reverse_append, List.takeWhile_append_dropWhile, List.reverse_reverse]
  · exact hp c (List.mem_takeWhile_imp (List.mem_reverse.mp hc))

end Text

namespace Screen

open Text

theorem Tightened.skips {afterBlank : Bool} {blanks raw dense : List Char}
    (hblanks : ∀ c ∈ blanks, Unicode.isBlank c = true)
    (hgap : afterBlank = true ∨ Screen.beginsBlank dense = true)
    (hrest : Tightened afterBlank raw dense) : Tightened afterBlank (blanks ++ raw) dense := by
  induction blanks with
  | nil => exact hrest
  | cons c blanks ih =>
      obtain ⟨hc, hblanks⟩ := List.forall_mem_cons.mp hblanks
      exact .skip hc hgap (ih hblanks)

theorem Tightened.keeps {afterBlank : Bool} {raw dense : List Char}
    (hrest : ∀ afterBlank, Tightened afterBlank raw dense) (line : List Char) :
    Tightened afterBlank (line ++ raw) (line ++ dense) := by
  induction line generalizing afterBlank with
  | nil => exact hrest afterBlank
  | cons c line ih => exact .keep ih

/-- A line that loses blanks at its start and at its end. -/
theorem Tightened.line {before line after raw dense : List Char}
    (hbefore : ∀ c ∈ before, Unicode.isBlank c = true)
    (hafter : ∀ c ∈ after, Unicode.isBlank c = true) (hdense : Screen.beginsBlank dense = true)
    (hrest : ∀ afterBlank, Tightened afterBlank raw dense) :
    Tightened true (before ++ (line ++ (after ++ raw))) (line ++ dense) :=
  .skips hbefore (.inl rfl) (.keeps (fun flag => .skips hafter (.inr hdense) (hrest flag)) line)

/-- A text whose lines lose blanks at both ends, with more lines after it. -/
theorem tightened_of_lined {cut : List Char → List Char} {text : List Char}
    {rest : List (List Char)} (hlined : Lined text rest)
    (hcut : ∀ line ∈ rest, ∃ before after, line = before ++ (cut line ++ after) ∧
      (∀ c ∈ before, Unicode.isBlank c = true) ∧ ∀ c ∈ after, Unicode.isBlank c = true)
    (more : List Char) : Tightened true text (join ['\n'] (rest.map cut) ++ '\n' :: more) := by
  induction hlined with
  | nil => exact .done (.inl rfl)
  | last line =>
      obtain ⟨before, after, hline, hbefore, hafter⟩ := hcut line List.mem_cons_self
      have htight : Tightened true (before ++ (cut line ++ (after ++ [])))
          (cut line ++ '\n' :: more) := .line hbefore hafter rfl fun _ => .done (.inr rfl)
      rw [List.append_nil, ← hline] at htight
      rwa [List.map_singleton, join, List.intercalate_singleton]
  | @cons line blanks text rest hblanks hrest ih =>
      obtain ⟨hfirst, hcut⟩ := List.forall_mem_cons.mp hcut
      obtain ⟨before, after, hline, hbefore, hafter⟩ := hfirst
      -- The last of the lines may be ended by its own line feed or by the one after the text.
      obtain ⟨dense, hdense, htail⟩ : ∃ dense,
          join ['\n'] ((line :: rest).map cut) ++ '\n' :: more = cut line ++ '\n' :: dense ∧
            Tightened true text dense := by
        cases rest with
        | nil =>
            cases hrest
            refine ⟨more, ?_, .done (.inl rfl)⟩
            rw [List.map_singleton, join, List.intercalate_singleton]
        | cons next rest =>
            refine ⟨_, ?_, ih hcut⟩
            rw [List.map_cons, List.map_cons, join, List.intercalate_cons_cons, join,
              List.append_assoc, List.append_assoc]
            rfl
      have hafter' : ∀ c ∈ after ++ blanks, Unicode.isBlank c = true :=
        List.forall_mem_append.mpr ⟨hafter, hblanks⟩
      rw [hdense]
      generalize cut line = kept at hline ⊢
      subst hline
      have htight : Tightened true (before ++ (kept ++ (after ++ blanks ++ '\n' :: text)))
          (kept ++ '\n' :: dense) := .line hbefore hafter' rfl fun _ => .keep htail
      simpa only [List.append_assoc] using htight

/-- A source and its dedented text with more lines after it. -/
theorem tightened_dedent (source more : List Char) :
    Tightened true source (dedent source ++ '\n' :: more) := by
  unfold dedent
  dsimp only
  split
  next =>
    have hmore : ∀ flag, Tightened flag [] ('\n' :: more) := fun _ => .done (.inr rfl)
    have htight : Tightened true (source ++ []) (source ++ '\n' :: more) := .keeps hmore source
    rwa [List.append_nil] at htight
  next =>
    refine tightened_of_lined (lines_lined source) (fun line hline => ?_) more
    have hcut : isBlankLine line = true ∨ commonIndent source ≤ indentWidth line := by
      cases hblank : isBlankLine line with
      | true => exact .inl rfl
      | false => exact .inr (commonIndent_le hline hblank)
    have hreturn : ∀ c : Char, (c == '\r') = true → Unicode.isBlank c = true := by
      rintro c hc
      rw [beq_iff_eq.mp hc]
      decide
    obtain ⟨before, hbefore, hbeforeBlank⟩ := dropBytes_eq hcut
    obtain ⟨after, hafter, hafterBlank⟩ :=
      dropTrailing_eq hreturn (dropBytes (commonIndent source) line)
    exact ⟨before, after, by rw [← hafter, ← hbefore], hbeforeBlank, hafterBlank⟩

end Screen

/-- A source passes the textual screen when its dedented text with more lines after it does. -/
theorem Guard.screenSource_before {guard : Guard} {source : String} {more : List Char}
    (hscreen : guard.screenSource
      (String.ofList (Text.dedent source.toList ++ '\n' :: more)) = .ok ()) :
    guard.screenSource source = .ok () :=
  guard.screenSource_tightened (Screen.tightened_dedent source.toList more) hscreen

end SchemaGuard
