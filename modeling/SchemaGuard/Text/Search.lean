import SchemaGuard.Unicode.Character

/-! # Searching and splitting text

Text is a list of characters. A separator is found from left to right without overlap,
so the pieces around it, joined by it again, give the text back.
-/

namespace SchemaGuard.Text

/-- The pieces of a text around a nonempty separator. `skip` counts the characters that still
belong to a separator already found, and `piece` holds the open piece in reverse. -/
def piecesFrom (separator : List Char) : Nat → List Char → List Char → List (List Char)
  | _, piece, [] => [piece.reverse]
  | skip + 1, piece, _ :: rest => piecesFrom separator skip piece rest
  | 0, piece, c :: rest =>
      if separator.isPrefixOf (c :: rest) then
        piece.reverse :: piecesFrom separator (separator.length - 1) [] rest
      else
        piecesFrom separator 0 (c :: piece) rest

/-- The pieces of a text around a nonempty separator. -/
def splitOn (separator text : List Char) : List (List Char) :=
  piecesFrom separator 0 [] text

/-- The pieces of a list joined by a separator. -/
def join (separator : List Char) (pieces : List (List Char)) : List Char :=
  List.intercalate separator pieces

/-- Whether a text contains another one. -/
def hasInfix (needle : List Char) : List Char → Bool
  | [] => needle.isEmpty
  | c :: rest => needle.isPrefixOf (c :: rest) || hasInfix needle rest

/-- How often a nonempty text occurs in another one without overlap. -/
def occurrences (needle text : List Char) : Nat :=
  (splitOn needle text).length - 1

/-- Every occurrence replaced. The empty text occurs before every character and at the end. -/
def replace (old new text : List Char) : List Char :=
  if old.isEmpty then new ++ text.flatMap (fun c => c :: new)
  else join new (splitOn old text)

/-- Text without the blanks at its start. -/
def trimLeft (text : List Char) : List Char :=
  text.dropWhile Unicode.isBlank

/-- Text without the trailing characters of a class. -/
def dropTrailing (p : Char → Bool) (text : List Char) : List Char :=
  (text.reverse.dropWhile p).reverse

/-- Text without the blanks at either end. -/
def trim (text : List Char) : List Char :=
  dropTrailing Unicode.isBlank (trimLeft text)

/-- A string without the blanks at either end. -/
def trimString (text : String) : String :=
  String.ofList (trim text.toList)

/-- The maximal runs of characters that are not blank; `word` holds the open one in reverse. -/
def wordsFrom : List Char → List Char → List (List Char)
  | word, [] => if word.isEmpty then [] else [word.reverse]
  | word, c :: rest =>
      if Unicode.isBlank c then
        if word.isEmpty then wordsFrom [] rest else word.reverse :: wordsFrom [] rest
      else wordsFrom (c :: word) rest

/-- The maximal runs of characters that are not blank. -/
def words (text : List Char) : List (List Char) :=
  wordsFrom [] text

/-- A line that ended in a line feed, without the carriage return before it. -/
def dropReturn (line : List Char) : List Char :=
  match line.getLast? with
  | some '\r' => line.dropLast
  | _ => line

/-- The lines of a text; `line` holds the open one in reverse. A line end is a line feed with an
optional carriage return before it, and the last line needs none. -/
def linesFrom : List Char → List Char → List (List Char)
  | [], [] => []
  | line, [] => [line.reverse]
  | line, c :: rest =>
      if c = '\n' then dropReturn line.reverse :: linesFrom [] rest
      else linesFrom (c :: line) rest

/-- The lines of a text without their ends. -/
def lines (text : List Char) : List (List Char) :=
  linesFrom [] text

/-- Whether a character is a space or a tab. -/
def isIndent (c : Char) : Bool :=
  c = ' ' || c = '\t'

/-- The number of spaces and tabs at the start of a line. -/
def indentWidth (line : List Char) : Nat :=
  (line.takeWhile isIndent).length

/-- Whether a line holds only blanks. -/
def isBlankLine (line : List Char) : Bool :=
  line.all Unicode.isBlank

/-- The indentation that all lines share that are not blank. -/
def commonIndent (text : List Char) : Nat :=
  match ((lines text).filter (fun line => !isBlankLine line)).map indentWidth with
  | [] => 0
  | width :: rest => rest.foldl min width

/-- The rest of a line after the given number of UTF-8 bytes; empty if the line is shorter or the
cut would divide a character. -/
def dropBytes : Nat → List Char → List Char
  | 0, line => line
  | _, [] => []
  | width, c :: rest => if c.utf8Size ≤ width then dropBytes (width - c.utf8Size) rest else []

/-- Text without the indentation that its lines share. -/
def dedent (text : List Char) : List Char :=
  let width := commonIndent text
  if width = 0 then text
  else join ['\n'] ((lines text).map (fun line => dropTrailing (· == '\r') (dropBytes width line)))

end SchemaGuard.Text
