import Mathlib
import SchemaGuard.Model.Compile
import SchemaGuard.Proofs.Program.Frame
import SchemaGuard.Proofs.Source.Sequence

/-! # The check of items

The check of the items of a collection is generated as text into which the name of the field is
pasted. As long as the name can stand in a literal, the text is the loop that it is meant to be,
wherever it stands; and the loop comes to its end just when every item is nonempty and of the
kind asked for.
-/

namespace SchemaGuard

open Outcome SchemaGuard.Lexer SchemaGuard.Parser

/-! ## Literals -/

namespace Lexer

/-- A text that stands for another one between single quotes, and does not end the literal. -/
def Quotes (text body : List Char) : Prop :=
  stringBody false '\'' false (text ++ ['\'']) = .ok (body, [])

theorem stringBody_of_quotes : ∀ {escaped : Bool} {text body : List Char},
    stringBody false '\'' escaped (text ++ ['\'']) = .ok (body, []) → ∀ more,
      stringBody false '\'' escaped (text ++ more) =
        (stringBody false '\'' false more).map (fun (rest, left) => (body ++ rest, left))
  | false, [], body, hbody, more => by
      cases hbody
      rw [List.nil_append]
      cases stringBody false '\'' false more <;> rfl
  | true, [], body, hbody, more => by cases hbody
  | true, c :: text, body, hbody, more => by
      rw [List.cons_append, stringBody] at hbody ⊢
      split at hbody
      next => cases hbody
      next d hescape =>
        obtain ⟨⟨inner, left⟩, hinner, hpair⟩ := map_eq_ok.mp hbody
        cases hpair
        rw [stringBody_of_quotes hinner more]
        cases stringBody false '\'' false more <;> rfl
  | false, c :: text, body, hbody, more => by
      rw [List.cons_append, stringBody] at hbody ⊢
      split at hbody
      next =>
        -- The closing quote is still to come.
        cases text <;> cases hbody
      next hquote =>
        rw [if_neg hquote]
        split at hbody
        next => cases hbody
        next hline =>
          rw [if_neg hline]
          split at hbody
          next hescape =>
            rw [if_pos hescape]
            exact stringBody_of_quotes hbody more
          next hescape =>
            rw [if_neg hescape]
            obtain ⟨⟨inner, left⟩, hinner, hpair⟩ := map_eq_ok.mp hbody
            cases hpair
            rw [stringBody_of_quotes hinner more]
            cases stringBody false '\'' false more <;> rfl

theorem Quotes.append {text body text' body' : List Char} (hfirst : Quotes text body)
    (hsecond : Quotes text' body') : Quotes (text ++ text') (body ++ body') := by
  unfold Quotes at hsecond ⊢
  rw [List.append_assoc, stringBody_of_quotes hfirst, hsecond]
  rfl

/-- Text without quotes, backslashes and line ends stands for itself. -/
theorem quotes_plain {text : List Char} (htext : ∀ c ∈ text, c ∉ ['\'', '\\', '\n']) :
    Quotes text text := by
  induction text with
  | nil => rfl
  | cons c text ih =>
      obtain ⟨hc, htext⟩ := List.forall_mem_cons.mp htext
      simp only [List.mem_cons, not_or] at hc
      have hrest := ih htext
      unfold Quotes at hrest ⊢
      rw [List.cons_append, stringBody, hrest]
      simp [hc]

theorem isNameChar_of_mem {name : List Char} (hname : isName name = true) {c : Char}
    (hc : c ∈ name) : isNameChar c = true := by
  cases name with
  | nil => cases hc
  | cons first rest =>
      simp only [isName, Bool.and_eq_true, List.all_eq_true] at hname
      exact hname.2 c hc

theorem quotes_of_isName {name : List Char} (hname : isName name = true) : Quotes name name := by
  refine quotes_plain fun c hc hmem => ?_
  have hothers : ['\'', '\\', '\n'].all (!isNameChar ·) = true := by decide
  have hother := List.all_eq_true.mp hothers c hmem
  simp [isNameChar_of_mem hname hc] at hother

end Lexer

/-! ## The text of the check -/

namespace ItemCheck

/-- Tokens on one line. -/
def onLine (line : Nat) (tokens : List Token) : List Lexeme :=
  tokens.map (⟨·, line⟩)

/-- What the check says of an empty item. -/
def emptyItem : String := "Items in list cannot be empty"

/-- The tokens of the first three lines of the check and of the fourth up to the kind. -/
def openingTokens (line : Nat) : List Lexeme :=
  onLine line [.forWord, .identifier "item", .isIn, .identifier "value", .colon, .newline] ++
  onLine (line + 1) [.indent, .ifWord, .not, .identifier "item", .colon, .newline] ++
  onLine (line + 2) [.indent, .raiseWord, .identifier "ValueError", .leftParen, .str emptyItem,
    .rightParen, .newline] ++
  onLine (line + 3) [.dedent, .ifWord, .not, .identifier "isinstance", .leftParen,
    .identifier "item", .comma]

/-- The tokens from the kind up to the message. -/
def kindTokens (item : ScalarType) (line : Nat) : List Lexeme :=
  onLine line [.identifier item.name, .rightParen, .colon, .newline] ++
  onLine (line + 1) [.indent, .raiseWord, .identifier "ValueError", .leftParen]

/-- The tokens of the message and of the end. -/
def closingTokens (message : String) (line : Nat) : List Lexeme :=
  onLine line [.str message, .rightParen, .newline, .dedent, .dedent, .eof]

/-- The tokens of the check, which begins on a line. -/
def tokens (item : ScalarType) (message : String) (line : Nat) : List Lexeme :=
  openingTokens line ++ (kindTokens item (line + 3) ++ closingTokens message (line + 4))

/-- The program of the check. -/
def program (item : ScalarType) (message : String) : Program :=
  [.loop "item" (.var "value") [
    .branch [(.not (.var "item"), [.raise "ValueError" (some (.str emptyItem))])] [],
    .branch [(.not (.call (.var "isinstance") [.var "item", .var item.name]),
      [.raise "ValueError" (some (.str message))])] []]]

theorem name_permitted (item : ScalarType) : isDenied item.name = false := by
  cases item <;> decide

theorem program_uses (item : ScalarType) (message : String) :
    (program item message).uses =
      [.binds "item", .reads "value", .reads "item", .calls "isinstance", .reads "item",
        .reads item.name] :=
  rfl

/-- The check uses nothing that a guard refuses. -/
theorem program_permitted (guard : Guard) (item : ScalarType) (message : String) :
    guard.Permits (program item message).uses := by
  have hname : ∀ name ∈ ["item", "value", "isinstance"], guard.checkName name = .ok () := by
    intro name hname
    have hdenied : ∀ name ∈ ["item", "value", "isinstance"], isDenied name = false := by decide
    exact Eval.guarded_eq_ok.mp (guard.guarded_checkName (hdenied name hname))
  have hkind : guard.checkName item.name = .ok () :=
    Eval.guarded_eq_ok.mp (guard.guarded_checkName (name_permitted item))
  rw [program_uses]
  simp [Guard.check, hname, hkind]

theorem scan_opening (line : Nat) (lexemes : List Lexeme) (rest : List Char) :
    scan ⟨line, 0, [0], true, lexemes⟩ ("for item in value:\n".toList ++
      ("    if not item:\n".toList ++
        ("        raise ValueError('Items in list cannot be empty')\n".toList ++
          ("    if not isinstance(item, ".toList ++ rest)))) =
      scan ⟨line + 3, 1, [4, 0], false, (openingTokens line).reverse ++ lexemes⟩ rest := by
  cbv

theorem scan_name (item : ScalarType) (line brackets : Nat) (indents : List Nat)
    (lexemes : List Lexeme) (rest : List Char) :
    scan ⟨line, brackets + 1, indents, false, lexemes⟩
      (item.name.toList ++ ("):\n".toList ++ rest)) =
      scan ⟨line, brackets + 1, indents, false, ⟨.identifier item.name, line⟩ :: lexemes⟩
        ("):\n".toList ++ rest) := by
  cases item <;> cbv

theorem scan_raise (line : Nat) (outer : List Nat) (lexemes : List Lexeme) (rest : List Char) :
    scan ⟨line, 1, 4 :: outer, false, lexemes⟩ ("):\n".toList ++
      ("        raise ValueError(".toList ++ rest)) =
      scan ⟨line + 1, 1, 8 :: 4 :: outer, false,
        (onLine line [.rightParen, .colon, .newline] ++
          onLine (line + 1) [.indent, .raiseWord, .identifier "ValueError", .leftParen]).reverse ++
            lexemes⟩ rest := by
  cbv

theorem scan_kind (item : ScalarType) (line : Nat) (outer : List Nat) (lexemes : List Lexeme)
    (rest : List Char) :
    scan ⟨line, 1, 4 :: outer, false, lexemes⟩ (item.name.toList ++ ("):\n".toList ++
      ("        raise ValueError(".toList ++ rest))) =
      scan ⟨line + 1, 1, 8 :: 4 :: outer, false, (kindTokens item line).reverse ++ lexemes⟩
        rest := by
  rw [scan_name, scan_raise]
  rfl

theorem scan_message {text body : List Char} (htext : Quotes text body) (line brackets : Nat)
    (indents : List Nat) (lexemes : List Lexeme) :
    scan ⟨line, brackets + 1, indents, false, lexemes⟩ ('\'' :: (text ++ "')".toList)) =
      .ok ⟨line, brackets, indents, false,
        ⟨.rightParen, line⟩ :: ⟨.str (String.ofList body), line⟩ :: lexemes⟩ := by
  have hstring : stringBody false '\'' false (text ++ "')".toList) = .ok (body, [')']) := by
    rw [stringBody_of_quotes htext]
    simp [stringBody]
  have hread : readToken line '\'' (text ++ "')".toList) =
      .ok (.str (String.ofList body), [')']) := by
    rw [readToken, if_pos (.inr rfl), readString, hstring]
  have hstep : step ⟨line, brackets + 1, indents, false, lexemes⟩
      ('\'' :: (text ++ "')".toList)) = .ok (⟨line, brackets + 1, indents, false,
        ⟨.str (String.ofList body), line⟩ :: lexemes⟩, [')']) := by
    rw [step_eq]
    change takeOne ⟨line, brackets + 1, indents, false, lexemes⟩ '\'' (text ++ "')".toList) = _
    rw [takeOne, if_neg (by decide), if_neg (by decide), if_neg (by decide), if_neg (by decide),
      hread]
    rfl
  rw [scan_cons hstep]
  cbv

theorem finish_closing (message : String) (line : Nat) (lexemes : List Lexeme) :
    State.finish ⟨line, 0, [8, 4, 0], false,
      ⟨.rightParen, line⟩ :: ⟨.str message, line⟩ :: lexemes⟩ =
      lexemes.reverse ++ closingTokens message line := by
  change (⟨.eof, line⟩ :: ⟨.dedent, line⟩ :: ⟨.dedent, line⟩ :: ⟨.newline, line⟩ ::
    ⟨.rightParen, line⟩ :: ⟨.str message, line⟩ :: lexemes : List Lexeme).reverse = _
  simp only [List.reverse_cons, List.append_assoc]
  rfl

theorem itemCheck_toList (field : String) (item : ScalarType) :
    (itemCheck field item).toList = "for item in value:\n".toList ++
      ("    if not item:\n".toList ++
        ("        raise ValueError('Items in list cannot be empty')\n".toList ++
          ("    if not isinstance(item, ".toList ++
            (item.name.toList ++ ("):\n".toList ++ ("        raise ValueError(".toList ++
              ('\'' :: (("Items in ".toList ++ (field.toList ++ (" must be of type ".toList ++
                item.name.toList))) ++ "')".toList)))))))) := by
  have hquote : "        raise ValueError('Items in ".toList =
      "        raise ValueError(".toList ++ ('\'' :: "Items in ".toList) := rfl
  unfold itemCheck
  simp only [String.toList_append, hquote, List.append_assoc, List.cons_append]

/-- What the check says of an item of another kind, given what the name of the field stands for. -/
def wrongItem (field : List Char) (item : ScalarType) : String :=
  String.ofList ("Items in ".toList ++ (field ++ (" must be of type ".toList ++ item.name.toList)))

/-- The message of the check stands for itself as soon as the name of the field can stand in a
literal. -/
theorem quotes_wrongItem {field body : List Char} (hfield : Quotes field body)
    (item : ScalarType) :
    Quotes ("Items in ".toList ++ (field ++ (" must be of type ".toList ++ item.name.toList)))
      ("Items in ".toList ++ (body ++ (" must be of type ".toList ++ item.name.toList))) := by
  have hbefore : Quotes "Items in ".toList "Items in ".toList := rfl
  have hbetween : Quotes " must be of type ".toList " must be of type ".toList := rfl
  have hitem : Quotes item.name.toList item.name.toList := by cases item <;> rfl
  exact hbefore.append (hfield.append (hbetween.append hitem))

/-- The text of the check is scanned as it is meant when the name of the field can stand in a
literal. -/
theorem itemCheck_scansTo {field : String} {body : List Char} (hfield : Quotes field.toList body)
    (item : ScalarType) :
    ScansTo (itemCheck field item).toList (tokens item (wrongItem body item)) := by
  intro line lexemes
  refine ⟨⟨line + 3 + 1, 0, [8, 4, 0], false,
    ⟨.rightParen, line + 3 + 1⟩ :: ⟨.str (wrongItem body item), line + 3 + 1⟩ ::
      ((kindTokens item (line + 3)).reverse ++ ((openingTokens line).reverse ++ lexemes))⟩, ?_, ?_⟩
  · rw [itemCheck_toList, scan_opening, scan_kind, scan_message (quotes_wrongItem hfield item)]
    rfl
  · rw [finish_closing, tokens, List.reverse_append, List.reverse_append, List.reverse_reverse,
      List.reverse_reverse, List.append_assoc, List.append_assoc]

theorem tokens_apart (item : ScalarType) (message : String) (line : Nat) :
    Apart (tokens item message line) := by
  intro token htoken hcurrent
  subst hcurrent
  simp [tokens, openingTokens, onLine] at htoken

/-! ## The program of the check -/

/-- The check is read as the loop that it is meant to be where four levels are permitted. -/
theorem program_tokens {limits : ParseLimits} (hdepth : 4 ≤ limits.maxDepth) {fuel : Nat}
    (hfuel : 60 ≤ fuel) (item : ScalarType) (message : String) (line : Nat) :
    Parser.program limits fuel (tokens item message line) = .ok (program item message) := by
  obtain ⟨depth, length⟩ := limits
  obtain ⟨depth, rfl⟩ := Nat.exists_eq_add_of_le' hdepth
  obtain ⟨fuel, rfl⟩ := Nat.exists_eq_add_of_le' hfuel
  have hjoined : message ++ "" = message := String.append_empty
  suffices hread : Parser.program ⟨depth + 4, length⟩ (fuel + 60) (tokens item message line) =
      .ok (program item (message ++ "")) by rwa [hjoined] at hread
  cbv

/-- It takes four levels. -/
theorem program_tokens_shallow {limits : ParseLimits} (hdepth : limits.maxDepth < 4) {fuel : Nat}
    (hfuel : 60 ≤ fuel) (item : ScalarType) (message : String) (line : Nat) :
    Parser.program limits fuel (tokens item message line) =
      .error (.refused (.tooDeep (limits.maxDepth + 1) limits.maxDepth)) := by
  obtain ⟨depth, length⟩ := limits
  obtain ⟨fuel, rfl⟩ := Nat.exists_eq_add_of_le' hfuel
  dsimp only at hdepth ⊢
  obtain rfl | rfl | rfl | rfl : depth = 0 ∨ depth = 1 ∨ depth = 2 ∨ depth = 3 := by omega
  all_goals cbv

/-- Whatever the limits, the check is read as the loop or not at all. -/
theorem program_tokens_eq {limits : ParseLimits} {fuel : Nat} (hfuel : 60 ≤ fuel)
    {item : ScalarType} {message : String} {line : Nat} {after : Program}
    (hprogram : Parser.program limits fuel (tokens item message line) = .ok after) :
    4 ≤ limits.maxDepth ∧ after = program item message := by
  by_cases hdepth : 4 ≤ limits.maxDepth
  · rw [program_tokens hdepth hfuel] at hprogram
    exact ⟨hdepth, (Except.ok.inj hprogram).symm⟩
  · rw [program_tokens_shallow (Nat.lt_of_not_le hdepth) hfuel] at hprogram
    cases hprogram

theorem itemCheck_begins (field : String) (item : ScalarType) :
    beginsLine (itemCheck field item).toList = true := by
  rw [itemCheck_toList]
  rfl

theorem itemCheck_line (field : String) (item : ScalarType) :
    ∃ line ∈ Text.lines (itemCheck field item).toList,
      Text.isBlankLine line = false ∧ Text.indentWidth line = 0 := by
  have hlines : ∀ rest, Text.lines ("for item in value:\n".toList ++ rest) =
      "for item in value:".toList :: Text.lines rest := fun _ => rfl
  rw [itemCheck_toList, hlines]
  exact ⟨_, List.mem_cons_self, by decide, by decide⟩

theorem tokens_length (item : ScalarType) (message : String) (line : Nat) :
    (tokens item message line).length = 40 := rfl

/-- The check by itself is read as its loop, or not at all. -/
theorem parse_itemCheck_eq_ok {limits : ParseLimits} {field : String} {body : List Char}
    (hfield : Quotes field.toList body) (item : ScalarType) {whole : Program} :
    Program.parse limits (itemCheck field item) = .ok whole ↔
      (itemCheck field item).utf8ByteSize ≤ limits.maxLength ∧ 4 ≤ limits.maxDepth ∧
        whole = program item (wrongItem body item) := by
  obtain ⟨line, hmem, hblank, hwidth⟩ := itemCheck_line field item
  have hdedent := Text.dedent_eq hmem hblank hwidth
  obtain ⟨final, hscan, hfinish⟩ := itemCheck_scansTo hfield item 1 []
  rw [List.reverse_nil, List.nil_append] at hfinish
  have hnewline := tokens_apart item (wrongItem body item) 1 .newline (by simp)
  have hbudget : 60 ≤ budget final.finish := by simp [hfinish, budget, tokens_length]
  have hread : skipNewlines final.finish = tokens item (wrongItem body item) 1 := by
    rw [hfinish, InStep.skipNewlines_eq hnewline]
  rw [Program.parse_eq_ok, hdedent, String.ofList_toList]
  constructor
  · rintro ⟨state, hlength, hstate, hprogram⟩
    cases hscan.symm.trans hstate
    rw [hread] at hprogram
    exact ⟨hlength, program_tokens_eq hbudget hprogram⟩
  · rintro ⟨hlength, hdepth, rfl⟩
    refine ⟨final, hlength, hscan, ?_⟩
    rw [hread]
    exact program_tokens hdepth hbudget item _ 1

theorem parse_itemCheck {limits : ParseLimits} {field : String} {body : List Char}
    (hfield : Quotes field.toList body) (item : ScalarType) (hdepth : 4 ≤ limits.maxDepth)
    (hlength : (itemCheck field item).utf8ByteSize ≤ limits.maxLength) :
    Program.parse limits (itemCheck field item) = .ok (program item (wrongItem body item)) :=
  (parse_itemCheck_eq_ok hfield item).mpr ⟨hlength, hdepth, rfl⟩

/-- The text of the check after another source. -/
def followed (source field : String) (item : ScalarType) : String :=
  String.intercalate "\n" [String.ofList (Text.dedent source.toList), itemCheck field item]

theorem followed_eq (source field : String) (item : ScalarType) :
    followed source field item =
      String.ofList (Text.dedent source.toList ++ '\n' :: (itemCheck field item).toList) := by
  apply String.toList_inj.mp
  rw [String.toList_ofList]
  change (String.ofList (Text.dedent source.toList) ++ "\n" ++ itemCheck field item).toList = _
  simp only [String.toList_append, String.toList_ofList, List.append_assoc]
  rfl

/-- The check after another source is read as its loop after the program of that source, or not at
all. -/
theorem parse_followed {limits : ParseLimits} {source field : String} {body : List Char}
    {before whole : Program} (hsource : Program.parse limits source = .ok before)
    (hfield : Quotes field.toList body) (item : ScalarType) :
    Program.parse limits (followed source field item) = .ok whole ↔
      (followed source field item).utf8ByteSize ≤ limits.maxLength ∧ 4 ≤ limits.maxDepth ∧
        whole = before ++ program item (wrongItem body item) := by
  obtain ⟨line, fuel, hfuel, hparse⟩ :=
    Program.parse_followed hsource (itemCheck_begins field item) (itemCheck_scansTo hfield item)
      (tokens_apart item _) (itemCheck_line field item)
  rw [tokens_length] at hfuel
  rw [followed_eq, hparse]
  constructor
  · rintro ⟨hlength, after, hafter, rfl⟩
    obtain ⟨hdepth, rfl⟩ := program_tokens_eq (by omega) hafter
    exact ⟨hlength, hdepth, rfl⟩
  · rintro ⟨hlength, hdepth, rfl⟩
    exact ⟨hlength, _, program_tokens hdepth (by omega) item _ line, rfl⟩

end ItemCheck

end SchemaGuard
