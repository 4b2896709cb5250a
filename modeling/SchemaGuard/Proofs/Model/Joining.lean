import SchemaGuard.Proofs.Model.Collections
import SchemaGuard.Proofs.Model.Declarations
import SchemaGuard.Proofs.Validator.ItemJoin

/-! # Stated validators joined with the check of items

The source that a document states for a collection and the check of its items are one text when they
are compiled. Its program is the program of the source and then that of the check, each as it is by
itself, unless the source ends with a backslash that joins the check to its last line.
-/

namespace SchemaGuard

open Outcome

namespace Property

variable {ev : Evaluator} {name : String} {property : Property} {item : ScalarType}

theorem Lists.declaresItems (hlists : property.Lists item) : property.DeclaresItems item := by
  obtain ⟨_, typeName, htype, hdeclared⟩ := hlists
  exact ⟨typeName, .list, htype, hdeclared⟩

/-- A property with a type for its items compiles to a leaf with a validator for the source that is
stated and the check of the items after it. -/
theorem compile_items_stated (hitems : property.DeclaresItems item) {spec : ValidatorSpec}
    (hspec : property.validator = some spec) {context : Table Value} {owner : String}
    {field : Field} (hcompile : property.compile ev context owner name = .ok field) :
    ∃ leaf validator whole, field = .leaf leaf ∧ leaf.validator = some validator ∧
      validator.program = property.refusal ++ whole ∧
      ev.compile (ItemCheck.followed spec.text name item) = .ok whole := by
  obtain ⟨typeName, type, htype, hdeclared⟩ := hitems
  obtain ⟨description, typeName', properties, default, constraints, spec', refusesEmpty⟩ := property
  dsimp only at htype hspec
  subst htype hspec
  cases properties with
  | some nested => cases hcompile
  | none =>
      obtain ⟨leaf, hleaf, rfl⟩ := compile_leaf_eq_ok.mp hcompile
      obtain ⟨type', itemType, read, validator, hdeclared', _, hvalidator, rfl⟩ :=
        compileLeaf_eq_ok.mp hleaf
      rw [hdeclared] at hdeclared'
      cases hdeclared'
      rw [leafValidator_eq, leafRequest?_list] at hvalidator
      obtain ⟨compiled, hcompiled, rfl⟩ := map_eq_ok.mp hvalidator
      obtain ⟨program, hprogram, rfl⟩ := ValidatorRequest.compile_eq_ok.mp hcompiled
      obtain ⟨whole, opening, hwhole, hopening, rfl⟩ := ValidatorRequest.program_eq_ok.mp hprogram
      rw [opening_listRequest] at hopening
      rw [listRequest_source rfl] at hwhole
      cases hopening
      exact ⟨_, _, whole, rfl, rfl, rfl, hwhole⟩

end Property

/-- Where a collection with a type for its items states a validator, its validator runs what refuses
empty values, if the property asks for it, then the program of the stated source, and then that of
the check of the items; both compile by themselves to these programs. The only exception is a source
that ends with a backslash: it joins the check to its last line, and does not compile by itself. -/
theorem Property.joined_validator {ev : Evaluator} {context : Table Value} {owner name : String}
    {property : Property} {item : ScalarType} {spec : ValidatorSpec} {field : Field}
    (hname : Lexer.isName name.toList = true) (hitems : property.DeclaresItems item)
    (hspec : property.validator = some spec)
    (hcompile : property.compile ev context owner name = .ok field) :
    ∃ leaf validator, field = .leaf leaf ∧ leaf.validator = some validator ∧
      ((∃ stated check, ev.compile spec.text = .ok stated ∧
          ev.compile (itemCheck name item) = .ok check ∧
          validator.program = property.refusal ++ stated ++ check) ∨
        Lexer.JoinsOn (Text.dedent spec.text.toList) ∧
          ∃ line, ev.compile spec.text = .error (.unexpectedChar '\\' line)) := by
  obtain ⟨leaf, validator, whole, rfl, hvalidator, hprogram, hwhole⟩ :=
    compile_items_stated hitems hspec hcompile
  refine ⟨leaf, validator, rfl, hvalidator, ?_⟩
  refine (ItemCheck.compile_followed_cases hname hwhole).imp_left ?_
  rintro ⟨stated, check, hstated, hcheck, rfl⟩
  refine ⟨stated, check, hstated, hcheck, ?_⟩
  rw [hprogram, List.append_assoc]

/-- The text of a validator that ends with a backslash in an open block. -/
def continuedSource : String :=
  "if False:\n  \\"

/-- A list of counts with this validator. -/
def continuedProperty : Property where
  typeName := some "list[int]"
  validator := some (.source continuedSource)

theorem continuedProperty_lists : continuedProperty.Lists .integer := by
  have hdeclared : LeafType.declared "list[int]" = .ok (.list, some .integer) := by rfl
  exact ⟨rfl, _, rfl, hdeclared⟩

theorem continuedSource_refused : (Evaluator.withBuiltins {} .restricted).compile continuedSource =
    .error (.unexpectedChar '\\' 2) := by
  cbv

section Continued

open SchemaGuard.Lexer SchemaGuard.Parser ItemCheck

/-- The tokens of the source and the check after it: the check stands in the block of the source. -/
def continuedTokens (message : String) : List Lexeme :=
  onLine 1 [.ifWord, .bool false, .colon, .newline] ++ onLine 2 [.indent] ++
    (openingTokens 3 ++ (kindTokens .integer 6 ++
      onLine 7 [.str message, .rightParen, .newline, .dedent, .dedent, .dedent, .eof]))

/-- The check begins on the line of the backslash, so its first line does not open a line. -/
theorem scan_continuedSource (rest : List Char) :
    scan {} (continuedSource.toList ++ '\n' :: rest) =
      scan ⟨3, 0, [2, 0], false, (onLine 1 [.ifWord, .bool false, .colon, .newline] ++
        onLine 2 [.indent]).reverse⟩ rest := by
  cbv

theorem scan_opening_within (lexemes : List Lexeme) (rest : List Char) :
    scan ⟨3, 0, [2, 0], false, lexemes⟩ ("for item in value:\n".toList ++
      ("    if not item:\n".toList ++
        ("        raise ValueError('Items in list cannot be empty')\n".toList ++
          ("    if not isinstance(item, ".toList ++ rest)))) =
      scan ⟨6, 1, [4, 2, 0], false, (openingTokens 3).reverse ++ lexemes⟩ rest := by
  cbv

theorem scan_continued (rest : List Char) :
    scan {} (continuedSource.toList ++ '\n' :: ("for item in value:\n".toList ++
      ("    if not item:\n".toList ++
        ("        raise ValueError('Items in list cannot be empty')\n".toList ++
          ("    if not isinstance(item, ".toList ++ rest))))) =
      scan ⟨6, 1, [4, 2, 0], false, (onLine 1 [.ifWord, .bool false, .colon, .newline] ++
        onLine 2 [.indent] ++ openingTokens 3).reverse⟩ rest := by
  rw [scan_continuedSource, scan_opening_within, ← List.reverse_append]

theorem continuedTokens_program (message : String) :
    Parser.program ⟨64, 16384⟩ (budget (continuedTokens message)) (continuedTokens message) =
      .ok [.branch [(.bool false, ItemCheck.program .integer message)] []] := by
  have hjoined : message ++ "" = message := String.append_empty
  suffices hread : Parser.program ⟨64, 16384⟩ (budget (continuedTokens message))
      (continuedTokens message) =
      .ok [.branch [(.bool false, ItemCheck.program .integer (message ++ ""))] []] by
    rwa [hjoined] at hread
  cbv

theorem continued_parse : Program.parse ⟨64, 16384⟩ (followed continuedSource "counts" .integer) =
    .ok [.branch [(.bool false, ItemCheck.program .integer
      (wrongItem "counts".toList .integer))] []] := by
  have hname : Lexer.isName "counts".toList = true := by decide
  have hquotes := quotes_wrongItem (quotes_of_isName hname) .integer
  have hfirst : Text.dedent continuedSource.toList = continuedSource.toList := by cbv
  have hlength : (followed continuedSource "counts" .integer).utf8ByteSize ≤ 16384 := by
    decide +kernel
  rw [followed_eq, hfirst] at hlength
  obtain ⟨line, hmem, hblank, hwidth⟩ := itemCheck_line "counts" .integer
  have hdedent := Text.dedent_eq (Text.mem_lines_followed hmem continuedSource.toList) hblank hwidth
  have hscan := ((scan_continued _).trans (scan_kind .integer 6 [2, 0] _ _)).trans
    (scan_message hquotes 7 0 [8, 4, 2, 0] _)
  rw [← itemCheck_toList] at hscan
  rw [followed_eq, hfirst, Program.parse_eq_ok, String.toList_ofList, hdedent]
  exact ⟨_, hlength, hscan, continuedTokens_program (wrongItem "counts".toList .integer)⟩

end Continued

theorem continuedProperty_compile :
    ∃ field, continuedProperty.compile (.withBuiltins {} .restricted) [] "Counts" "counts" =
      .ok field := by
  have hname : Lexer.isName "counts".toList = true := by decide
  have hinnocent : Screen.isInnocent (Text.dedent continuedSource.toList ++ ['\n']) = true := by
    cbv
  have huses : Guard.restricted.Permits (Program.uses [.branch [(.bool false,
      ItemCheck.program .integer (ItemCheck.wrongItem "counts".toList .integer))] []]) :=
    ItemCheck.program_permitted .restricted .integer
      (ItemCheck.wrongItem "counts".toList .integer)
  have hwhole : (Evaluator.withBuiltins {} .restricted).compile
      (ItemCheck.followed continuedSource "counts" .integer) = .ok _ :=
    Evaluator.compile_eq_ok.mpr ⟨ItemCheck.followed_screened .restricted hinnocent hname .integer,
      continued_parse, huses⟩
  exact Property.compile_list_ok continuedProperty_lists rfl rfl hwhole [] "Counts"

/-- A block that ends in a `pass` keeps the check after it apart; a backslash at the end draws the
check into the block. -/
theorem labelsProperty_joined :
    (∃ leaf validator stated check,
      labelsProperty.compile (.withBuiltins {} .restricted) [] "Labels" "labels" =
        .ok (.leaf leaf) ∧ leaf.validator = some validator ∧
      (Evaluator.withBuiltins {} .restricted).compile labelsSource = .ok stated ∧
      (Evaluator.withBuiltins {} .restricted).compile (itemCheck "labels" .text) = .ok check ∧
      validator.program = ValidatorRequest.refusal ++ stated ++ check) ∧
    ∃ leaf line, continuedProperty.compile (.withBuiltins {} .restricted) [] "Counts" "counts" =
        .ok (.leaf leaf) ∧
      (Evaluator.withBuiltins {} .restricted).compile continuedSource =
        .error (.unexpectedChar '\\' line) := by
  constructor
  · obtain ⟨field, hcompile⟩ := labelsProperty_compile
    obtain ⟨leaf, validator, rfl, hvalidator, hjoined⟩ := Property.joined_validator (by decide)
      labelsProperty_lists.declaresItems rfl hcompile
    obtain ⟨stated, check, hstated, hcheck, hprogram⟩ | ⟨_, line, herror⟩ := hjoined
    · exact ⟨leaf, validator, stated, check, hcompile, hvalidator, hstated, hcheck, hprogram⟩
    · cases labelsSource_compile.symm.trans herror
  · obtain ⟨field, hcompile⟩ := continuedProperty_compile
    obtain ⟨leaf, validator, rfl, _, hjoined⟩ := Property.joined_validator (by decide)
      continuedProperty_lists.declaresItems rfl hcompile
    obtain ⟨stated, check, hstated, _⟩ | ⟨_, line, herror⟩ := hjoined
    · cases continuedSource_refused.symm.trans hstated
    · exact ⟨leaf, line, hcompile, herror⟩

end SchemaGuard
