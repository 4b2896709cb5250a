/-! # Placed characters

Layout gives meaning to where a character stands, so text is turned into characters that
know their line and column before anything is read from it. Every line end becomes a line
feed, except for the two Unicode separators, which end a line but stay what they are.
-/

namespace SchemaGuard.Yaml

/-- A character with its place. -/
structure Glyph where
  char : Char
  line : Nat
  column : Nat
deriving DecidableEq, Repr

/-- Whether a character may occur in a document at all. -/
def isAllowed (c : Char) : Bool :=
  c = '\t' || c = '\n' || c = '\r' || (' ' ≤ c && c ≤ '~') || c = '\u0085' ||
    ('\u00a0' ≤ c && c ≤ '\ufffd') || decide (0x10000 ≤ c.toNat)

/-- Whether a character is a space or a tab. -/
def isBlank (c : Char) : Bool :=
  c = ' ' || c = '\t'

/-- Whether a character ends a line, once line ends are brought into one form. -/
def isBreak (c : Char) : Bool :=
  c = '\n' || c = '\u2028' || c = '\u2029'

/-- Whether a character is blank or ends a line. -/
def isSpace (c : Char) : Bool :=
  isBlank c || isBreak c

/-- Text whose line ends are line feeds or separators. -/
def unifyBreaks : List Char → List Char
  | [] => []
  | '\r' :: '\n' :: rest => '\n' :: unifyBreaks rest
  | c :: rest => (if c = '\r' || c = '\u0085' then '\n' else c) :: unifyBreaks rest

/-- Gives every character of a text its place. -/
def placeFrom (line column : Nat) : List Char → List Glyph
  | [] => []
  | c :: rest =>
      ⟨c, line, column⟩ ::
        (if isBreak c then placeFrom (line + 1) 0 rest else placeFrom line (column + 1) rest)

/-- The placed characters of a text without a mark of byte order at its start; `none` if a
character is not allowed. -/
def place? (text : String) : Option (List Glyph) :=
  if text.toList.all isAllowed then
    match placeFrom 0 0 (unifyBreaks text.toList) with
    | ⟨'\ufeff', _, _⟩ :: rest => some rest
    | glyphs => some glyphs
  else
    none

/-- The next character. -/
def front? (text : List Glyph) : Option Char :=
  text.head?.map Glyph.char

/-- Whether a blank, a line end or the end of the text comes next. -/
def endsWord (text : List Glyph) : Bool :=
  (front? text).all isSpace

/-- Whether a character comes next. -/
def startsWith (c : Char) (text : List Glyph) : Bool :=
  front? text == some c

/-- Whether three equal characters that divide documents begin a line. -/
def isDivider (mark : Char) : List Glyph → Bool
  | a :: b :: c :: rest =>
      a.column == 0 && a.char == mark && b.char == mark && c.char == mark && endsWord rest
  | _ => false

/-- Whether a line begins with the start or the end of a document. -/
def atDivider (text : List Glyph) : Bool :=
  isDivider '-' text || isDivider '.' text

theorem placeFrom_length (line column : Nat) (text : List Char) :
    (placeFrom line column text).length = text.length := by
  induction text generalizing line column with
  | nil => rfl
  | cons c rest ih =>
      simp only [placeFrom, List.length_cons]
      split <;> rw [ih]

end SchemaGuard.Yaml
