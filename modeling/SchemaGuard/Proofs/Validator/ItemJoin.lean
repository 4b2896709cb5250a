import SchemaGuard.Proofs.Source.Prefix
import SchemaGuard.Proofs.Validator.Respacing

/-! # Sources before the check of items

Where a source and the check of items after it compile, the source compiles by itself. The check
closes the brackets that it opens, so it cannot complete what the source leaves open.
-/

namespace SchemaGuard

open Outcome SchemaGuard.Lexer SchemaGuard.Parser

namespace ItemCheck

/-! ## The check within brackets -/

/-- The tokens that remain of some tokens within brackets. -/
def withinLine (lexemes : List Lexeme) : List Lexeme :=
  lexemes.filter (·.token.isInline)

theorem scan_opening_open (line brackets : Nat) (indents : List Nat) (lexemes : List Lexeme)
    (rest : List Char) :
    scan ⟨line, brackets + 1, indents, false, lexemes⟩ ("for item in value:\n".toList ++
      ("    if not item:\n".toList ++
        ("        raise ValueError('Items in list cannot be empty')\n".toList ++
          ("    if not isinstance(item, ".toList ++ rest)))) =
      scan ⟨line + 3, brackets + 2, indents, false,
        (withinLine (openingTokens line)).reverse ++ lexemes⟩ rest := by
  cbv

theorem scan_raise_open (line brackets : Nat) (indents : List Nat) (lexemes : List Lexeme)
    (rest : List Char) :
    scan ⟨line, brackets + 2, indents, false, lexemes⟩ ("):\n".toList ++
      ("        raise ValueError(".toList ++ rest)) =
      scan ⟨line + 1, brackets + 2, indents, false,
        (onLine line [.rightParen, .colon] ++
          onLine (line + 1) [.raiseWord, .identifier "ValueError", .leftParen]).reverse ++
            lexemes⟩ rest := by
  cbv

theorem itemCheck_keepsOpen {field : String} {body : List Char}
    (hfield : Quotes field.toList body) (item : ScalarType) :
    KeepsOpen (itemCheck field item).toList := by
  rintro ⟨line, brackets, indents, start, lexemes⟩ last hscan hbrackets
  rw [scan_within hbrackets (itemCheck_begins field item)] at hscan
  obtain ⟨brackets, rfl⟩ := Nat.exists_eq_succ_of_ne_zero hbrackets
  rw [itemCheck_toList, scan_opening_open, scan_name, scan_raise_open,
    scan_message (quotes_wrongItem hfield item)] at hscan
  cases hscan
  exact Nat.succ_ne_zero brackets

/-! ## Compilation -/

variable {ev : Evaluator} {source field : String} {body : List Char} {item : ScalarType}
  {whole : Program}

/-- A source compiles by itself when it compiles with the check after it, unless its end joins its
last line to the check. -/
theorem compile_before (hfield : Quotes field.toList body)
    (hwhole : ev.compile (followed source field item) = .ok whole) :
    (∃ stated, ev.compile source = .ok stated) ∨
      JoinsOn (Text.dedent source.toList) ∧
        ∃ line, ev.compile source = .error (.unexpectedChar '\\' line) := by
  obtain ⟨hscreen, hparse, huses⟩ := Evaluator.compile_eq_ok.mp hwhole
  have hsource : ev.guard.screenSource source = .ok () := by
    rw [followed_eq] at hscreen
    exact Guard.screenSource_before hscreen
  have hbefore := hparse
  rw [followed_eq] at hbefore
  obtain ⟨stated, hstated⟩ | ⟨hjoins, line, herror⟩ :=
    Program.parse_before (itemCheck_begins field item) (itemCheck_scansTo hfield item)
      (itemCheck_keepsOpen hfield item) (tokens_apart item _) (itemCheck_line field item) hbefore
  · obtain ⟨_, _, rfl⟩ := (parse_followed hstated hfield item).mp hparse
    rw [Program.uses, Statement.usesOfBlock_append, ev.guard.permits_append] at huses
    exact .inl ⟨stated, Evaluator.compile_eq_ok.mpr ⟨hsource, hstated, huses.1⟩⟩
  · refine .inr ⟨hjoins, line, ?_⟩
    rw [Evaluator.compile, hsource, herror]
    rfl

/-- What compiles with the check after it is the program of the source and then that of the check,
unless the end of the source joins its last line to the check. -/
theorem compile_followed_cases (hfield : Lexer.isName field.toList = true)
    (hwhole : ev.compile (followed source field item) = .ok whole) :
    (∃ stated check, ev.compile source = .ok stated ∧
      ev.compile (itemCheck field item) = .ok check ∧ whole = stated ++ check) ∨
      JoinsOn (Text.dedent source.toList) ∧
        ∃ line, ev.compile source = .error (.unexpectedChar '\\' line) := by
  have hquotes := Lexer.quotes_of_isName hfield
  refine (compile_before hquotes hwhole).imp_left fun ⟨stated, hstated⟩ => ?_
  obtain ⟨_, hlength, hdepth, rfl⟩ := (compile_followed hstated hquotes).mp hwhole
  have hshort : (itemCheck field item).utf8ByteSize ≤ ev.limits.maxSourceLength := by
    change (String.ofList (Text.dedent source.toList) ++ "\n" ++
      itemCheck field item).utf8ByteSize ≤ _ at hlength
    rw [String.utf8ByteSize_append] at hlength
    omega
  exact ⟨stated, _, hstated,
    compile_itemCheck hquotes (itemCheck_screened ev.guard hfield item) hshort hdepth, rfl⟩

end ItemCheck

end SchemaGuard
