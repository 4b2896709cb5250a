import SchemaGuard.Proofs.Blanks
import SchemaGuard.Proofs.Program.Guarding
import SchemaGuard.Proofs.Validator.ItemCheck

/-! # The check of items before the textual screen

The textual screen looks for the names of modules without telling code from literals, so the name
of a field in the check of its items can set it off. A name that is a name of the language does not:
no text of the check has a dot, and no module is named after a word of an import.
-/

namespace SchemaGuard

namespace Screen

theorem dropStart?_eq_some {start text rest : List Char} :
    dropStart? start text = some rest ↔ text = start ++ rest := by
  induction start generalizing text with
  | nil => simp [dropStart?]
  | cons c start ih =>
      cases text with
      | nil => simp [dropStart?]
      | cons d text =>
          by_cases hc : c = d
          · simp [dropStart?, hc, ih]
          · simp [dropStart?, hc, Ne.symm hc]

/-- The word at the start of a text, up to the first blank. -/
def leadingWord (text : List Char) : List Char :=
  text.takeWhile (!Unicode.isBlank ·)

/-- What follows the word at the start of a text and the blanks after it. -/
def afterWord (text : List Char) : List Char :=
  (text.dropWhile (!Unicode.isBlank ·)).dropWhile Unicode.isBlank

theorem leadingWord_append {word rest : List Char} {c : Char}
    (hword : ∀ c ∈ word, Unicode.isBlank c = false) (hc : Unicode.isBlank c = true) :
    leadingWord (word ++ c :: rest) = word := by
  unfold leadingWord
  rw [List.takeWhile_append_of_pos (by simpa using hword), List.takeWhile_cons]
  simp [hc]

theorem afterWord_append {word rest : List Char} {c : Char}
    (hword : ∀ c ∈ word, Unicode.isBlank c = false) (hc : Unicode.isBlank c = true) :
    afterWord (word ++ c :: rest) = rest.dropWhile Unicode.isBlank := by
  unfold afterWord
  rw [List.dropWhile_append_of_pos (by simpa using hword), List.dropWhile_cons]
  simp [hc]

/-- A text that names a module after a word begins with that word and goes on with the module. -/
theorem of_namesAfter {word name text : List Char}
    (hword : ∀ c ∈ word, Unicode.isBlank c = false) (hnames : namesAfter word name text = true) :
    leadingWord text = word ∧ name <+: afterWord text := by
  unfold namesAfter at hnames
  split at hnames
  next c rest hstart =>
    rw [dropStart?_eq_some] at hstart
    subst hstart
    obtain ⟨hc, hnames⟩ := Bool.and_eq_true_iff.mp hnames
    refine ⟨leadingWord_append hword hc, ?_⟩
    rw [afterWord_append hword hc]
    split at hnames
    next after hname => exact ⟨after, (dropStart?_eq_some.mp hname).symm⟩
    next => cases hnames
  next => cases hnames

theorem dot_mem_of_selectsFrom {name text : List Char} (hselects : selectsFrom name text = true) :
    '.' ∈ text := by
  unfold selectsFrom at hselects
  split at hselects
  next rest hstart =>
    rw [dropStart?_eq_some] at hstart
    subst hstart
    have hdot : '.' ∈ rest.dropWhile Unicode.isBlank :=
      List.mem_of_mem_head? (by simpa using hselects)
    exact List.mem_append_right _ ((List.dropWhile_suffix _).subset hdot)
  next => cases hselects

/-- The words after which a module is named. -/
def importWords : List (List Char) := ["import".toList, "from".toList]

theorem importWords_visible {word : List Char} (hword : word ∈ importWords) :
    word ≠ [] ∧ ∀ c ∈ word, Unicode.isBlank c = false := by
  have hvisible : importWords.all (fun word => !word.isEmpty && word.all (!Unicode.isBlank ·)) =
      true := by decide
  simpa using List.all_eq_true.mp hvisible word hword

/-- A text without a dot uses a module only where the module follows a word of an import. -/
theorem usesFrom_eq_false {name : List Char} {text : List Char} (hdot : '.' ∉ text)
    (himports : ∀ tail, tail <:+ text → leadingWord tail ∈ importWords →
      ¬ name <+: afterWord tail) (before : Option Char) : usesFrom name before text = false := by
  induction text generalizing before with
  | nil => rfl
  | cons c rest ih =>
      have hnames : ∀ word ∈ importWords, namesAfter word name (c :: rest) = false := by
        intro word hmem
        by_contra htrue
        obtain ⟨hleading, hname⟩ :=
          of_namesAfter (importWords_visible hmem).2 (by simpa using htrue)
        exact himports _ List.suffix_rfl (hleading ▸ hmem) hname
      have hselects : selectsFrom name (c :: rest) = false := by
        by_contra htrue
        exact hdot (dot_mem_of_selectsFrom (by simpa using htrue))
      -- The character before does not matter, for neither kind of use is there.
      have hhere : usesHere name before (c :: rest) = false := by
        have himport := hnames "import".toList (by decide)
        have hfrom := hnames "from".toList (by decide)
        unfold usesHere
        rw [show ['i', 'm', 'p', 'o', 'r', 't'] = "import".toList from rfl, himport,
          show ['f', 'r', 'o', 'm'] = "from".toList from rfl, hfrom, hselects]
        simp
      rw [usesFrom, hhere, Bool.false_or]
      exact ih (fun hmem => hdot (List.mem_cons_of_mem _ hmem))
        (fun tail htail => himports tail (htail.trans (List.suffix_cons c rest))) _

theorem leadingWord_of_blank {text : List Char} (hblank : ∃ c ∈ text, Unicode.isBlank c = true)
    (rest : List Char) : leadingWord (text ++ rest) = leadingWord text := by
  unfold leadingWord
  rw [List.takeWhile_append, if_neg]
  intro hlength
  obtain ⟨c, hc, hblank⟩ := hblank
  have hall : text.takeWhile (!Unicode.isBlank ·) = text :=
    (List.takeWhile_prefix _).eq_of_length hlength
  rw [← hall] at hc
  have hvisible := List.mem_takeWhile_imp hc
  simp [hblank] at hvisible

theorem suffix_append_cases {tail first second : List Char} (htail : tail <:+ first ++ second) :
    tail <:+ second ∨ ∃ start, start <:+ first ∧ start ≠ [] ∧ tail = start ++ second := by
  obtain ⟨skipped, hskipped⟩ := htail
  obtain ⟨start, rfl, rfl⟩ | ⟨rest, rfl, rfl⟩ := List.append_eq_append_iff.mp hskipped
  · cases start with
    | nil => exact .inl List.suffix_rfl
    | cons c start => exact .inr ⟨c :: start, List.suffix_append _ _, List.cons_ne_nil _ _, rfl⟩
  · exact .inl (List.suffix_append _ _)

/-- Whether a text has no dots, ends with a blank, and has no word that a word of an import ends. -/
def isInnocent (text : List Char) : Bool :=
  !text.contains '.' && text.tails.all fun tail =>
    tail.isEmpty || (tail.any Unicode.isBlank && !importWords.contains (leadingWord tail))

theorem dot_notMem_of_isInnocent {text : List Char} (htext : isInnocent text = true) :
    '.' ∉ text := by
  have hdot := (Bool.and_eq_true_iff.mp htext).1
  simpa using hdot

/-- What is used after an innocent text is used without it. -/
theorem imports_after {text rest : List Char} (htext : isInnocent text = true) {name : List Char}
    (hrest : ∀ tail, tail <:+ rest → leadingWord tail ∈ importWords → ¬ name <+: afterWord tail) :
    ∀ tail, tail <:+ text ++ rest → leadingWord tail ∈ importWords → ¬ name <+: afterWord tail := by
  intro tail htail hword
  obtain htail | ⟨start, hstart, hne, rfl⟩ := suffix_append_cases htail
  · exact hrest tail htail hword
  · have htails := List.all_eq_true.mp (Bool.and_eq_true_iff.mp htext).2 start
      ((List.mem_tails _ _).mpr hstart)
    obtain ⟨hblank, hinnocent⟩ : (∃ c ∈ start, Unicode.isBlank c = true) ∧
        leadingWord start ∉ importWords := by
      simpa [hne] using htails
    rw [leadingWord_of_blank hblank] at hword
    exact absurd hword hinnocent

end Screen

/-- A source without a dot, and with no refused module after a word of an import, passes the textual
screen. -/
theorem Guard.screenSource_ok (guard : Guard) {source : String} (hdot : '.' ∉ source.toList)
    (himports : ∀ name ∈ deniedModules, ∀ tail, tail <:+ source.toList →
      Screen.leadingWord tail ∈ Screen.importWords → ¬ name.toList <+: Screen.afterWord tail) :
    guard.screenSource source = .ok () := by
  have hunused : ∀ name ∈ deniedModules, Screen.uses name source.toList = false :=
    fun name hname => Screen.usesFrom_eq_false hdot (himports name hname) none
  unfold screenSource
  split
  next => rw [List.find?_eq_none.mpr fun name hname => by simp [hunused name hname]]
  next => rfl

namespace ItemCheck

open Screen

/-- The text of the check up to the name of the kind. -/
def openingText : List Char :=
  "for item in value:\n".toList ++ "    if not item:\n".toList ++
    "        raise ValueError('Items in list cannot be empty')\n".toList ++
    "    if not isinstance(item, ".toList

/-- The text of the check from the name of the kind up to that of the field. -/
def kindText (item : ScalarType) : List Char :=
  item.name.toList ++ "):\n".toList ++ "        raise ValueError(".toList ++ "'Items in ".toList

/-- The text of the check after the name of the field. -/
def closingText (item : ScalarType) : List Char :=
  "must be of type ".toList ++ item.name.toList ++ "')".toList

theorem itemCheck_eq (field : String) (item : ScalarType) :
    (itemCheck field item).toList =
      openingText ++ (kindText item ++ (field.toList ++ ' ' :: closingText item)) := by
  have hmessage : "'Items in ".toList = '\'' :: "Items in ".toList := rfl
  have htype : " must be of type ".toList = ' ' :: "must be of type ".toList := rfl
  rw [itemCheck_toList]
  unfold openingText kindText closingText
  rw [hmessage, htype]
  simp only [List.append_assoc, List.cons_append]

theorem openingText_innocent : isInnocent openingText = true := by
  cbv

theorem kindText_innocent (item : ScalarType) : isInnocent (kindText item) = true := by
  cases item <;> cbv

theorem closingText_imports (item : ScalarType) : '.' ∉ closingText item ∧
    (∀ tail ∈ (' ' :: closingText item).tails, leadingWord tail ∉ importWords) ∧
    ∀ name ∈ deniedModules, ¬ name.toList <+: (closingText item).dropWhile Unicode.isBlank := by
  cases item <;> decide +kernel

/-- In a field with a name of the language, the check has neither a dot nor a module after a word of
an import. -/
theorem itemCheck_innocent {field : String} (hfield : Lexer.isName field.toList = true)
    (item : ScalarType) : '.' ∉ (itemCheck field item).toList ∧ ∀ name ∈ deniedModules, ∀ tail,
      tail <:+ (itemCheck field item).toList → leadingWord tail ∈ importWords →
        ¬ name.toList <+: afterWord tail := by
  obtain ⟨hclosingDot, hclosingWords, hclosingModules⟩ := closingText_imports item
  rw [itemCheck_eq]
  constructor
  · have hname : '.' ∉ field.toList := by
      intro hmem
      have hdot : Lexer.isNameChar '.' = false := by decide
      rw [Lexer.isNameChar_of_mem hfield hmem] at hdot
      cases hdot
    have hopening := dot_notMem_of_isInnocent openingText_innocent
    have hkind := dot_notMem_of_isInnocent (kindText_innocent item)
    simp [hopening, hkind, hname, hclosingDot]
  · intro name hname
    refine imports_after openingText_innocent
      (imports_after (kindText_innocent item) fun tail htail hword => ?_)
    obtain htail | ⟨start, hstart, _, rfl⟩ := suffix_append_cases htail
    · exact absurd hword (hclosingWords tail ((List.mem_tails _ _).mpr htail))
    · -- The field may well be named after a word of an import, but no module follows it.
      have hvisible : ∀ c ∈ start, Unicode.isBlank c = false := fun c hc =>
        Lexer.isBlank_of_isNameChar (Lexer.isNameChar_of_mem hfield (hstart.subset hc))
      rw [afterWord_append hvisible (by decide)]
      exact hclosingModules name hname

/-- The check of a field passes the textual screen when the field has a name of the language. -/
theorem itemCheck_screened (guard : Guard) {field : String}
    (hfield : Lexer.isName field.toList = true) (item : ScalarType) :
    guard.screenSource (itemCheck field item) = .ok () := by
  obtain ⟨hdot, himports⟩ := itemCheck_innocent hfield item
  exact guard.screenSource_ok hdot himports

/-- So does the check after an innocent source. -/
theorem followed_screened (guard : Guard) {source field : String}
    (hsource : isInnocent (Text.dedent source.toList ++ ['\n']) = true)
    (hfield : Lexer.isName field.toList = true) (item : ScalarType) :
    guard.screenSource (followed source field item) = .ok () := by
  obtain ⟨hdot, himports⟩ := itemCheck_innocent hfield item
  have htext : (followed source field item).toList =
      (Text.dedent source.toList ++ ['\n']) ++ (itemCheck field item).toList := by
    rw [followed_eq, String.toList_ofList, List.append_assoc]
    rfl
  apply guard.screenSource_ok <;> rw [htext]
  · rw [List.mem_append, not_or]
    exact ⟨dot_notMem_of_isInnocent hsource, hdot⟩
  · exact fun name hname => imports_after hsource (himports name hname)

/-! ## Compilation -/

variable {ev : Evaluator} {field : String} {body : List Char}

/-- The check by itself compiles to its loop. -/
theorem compile_itemCheck (hfield : Lexer.Quotes field.toList body) {item : ScalarType}
    (hscreen : ev.guard.screenSource (itemCheck field item) = .ok ())
    (hlength : (itemCheck field item).utf8ByteSize ≤ ev.limits.maxSourceLength)
    (hdepth : 4 ≤ ev.limits.maxCallDepth) :
    ev.compile (itemCheck field item) = .ok (program item (wrongItem body item)) :=
  Evaluator.compile_eq_ok.mpr ⟨hscreen, parse_itemCheck hfield item hdepth hlength,
    program_permitted ev.guard item _⟩

/-- The check after a source that compiles compiles to its loop after the program of the source, or
not at all. -/
theorem compile_followed {source : String} {stated whole : Program}
    (hstated : ev.compile source = .ok stated) (hfield : Lexer.Quotes field.toList body)
    {item : ScalarType} : ev.compile (followed source field item) = .ok whole ↔
      ev.guard.screenSource (followed source field item) = .ok () ∧
      (followed source field item).utf8ByteSize ≤ ev.limits.maxSourceLength ∧
      4 ≤ ev.limits.maxCallDepth ∧ whole = stated ++ program item (wrongItem body item) := by
  obtain ⟨_, hparse, huses⟩ := Evaluator.compile_eq_ok.mp hstated
  rw [Evaluator.compile_eq_ok, parse_followed hparse hfield item]
  constructor
  · rintro ⟨hscreen, ⟨hlength, hdepth, rfl⟩, _⟩
    exact ⟨hscreen, hlength, hdepth, rfl⟩
  · rintro ⟨hscreen, hlength, hdepth, rfl⟩
    refine ⟨hscreen, ⟨hlength, hdepth, rfl⟩, ?_⟩
    rw [Program.uses, Statement.usesOfBlock_append]
    exact (ev.guard.permits_append _ _).mpr ⟨huses, program_permitted ev.guard item _⟩

end ItemCheck

end SchemaGuard
