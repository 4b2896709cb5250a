import SchemaGuard.Number.Numeral
import SchemaGuard.Yaml.Glyph
import SchemaGuard.Yaml.Token

/-! # Written scalars

Reading the text of a scalar from the page. A line end between two words of a plain or a
quoted scalar counts as one space, and further ones count as themselves. A block scalar
keeps its line ends, unless it is folded, and treats those at its end as its header says.
-/

namespace SchemaGuard.Yaml

/-- The white space between two words: blanks in a line, or a line end and further ones. -/
inductive Gap where
  | inline (blanks : List Char)
  | broken (first : List Char) (more : List Char)
deriving DecidableEq, Repr

namespace Gap

/-- The gap with one more blank or line end. Blanks next to a line end do not count. -/
def extend (gap : Gap) (c : Char) : Gap :=
  match gap with
  | inline blanks => if isBreak c then broken [c] [] else inline (blanks ++ [c])
  | broken first more => if isBreak c then broken first (more ++ [c]) else gap

/-- What a gap leaves of itself in the text. -/
def text : Gap → List Char
  | inline blanks => blanks
  | broken ['\n'] [] => [' ']
  | broken ['\n'] more => more
  | broken first more => first ++ more

/-- Whether a gap has a line end. -/
def isBroken : Gap → Bool
  | inline _ => false
  | broken _ _ => true

/-- Whether there is nothing in a gap. -/
def isEmpty : Gap → Bool
  | inline blanks => blanks.isEmpty
  | broken _ _ => false

end Gap

/-! ## Plain scalars -/

/-- Whether a character ends a plain scalar inside brackets. -/
def endsInFlow (c : Char) : Bool :=
  c = ',' || c = '[' || c = ']' || c = '\x7b' || c = '\x7d'

/-- Whether a plain scalar ends before the next character, which begins no blank. -/
def endsPlain (inFlow : Bool) (c : Char) (rest : List Glyph) : Bool :=
  (c = ':' && endsWord rest) || (inFlow && endsInFlow c)

/-- Whether a colon stands where it cannot be told what it means. -/
def strayColon (inFlow : Bool) (c : Char) (rest : List Glyph) : Bool :=
  inFlow && c = ':' && (front? rest).any (fun d => d = '?' || endsInFlow d)

/-- Whether a plain scalar ends after a gap. -/
def endsAtGap (inFlow : Bool) (indent : Nat) (gap : Gap) (text : List Glyph) : Bool :=
  match text with
  | [] => true
  | g :: _ =>
      !gap.isEmpty &&
        ((!inFlow && decide (g.column < indent)) || atDivider text || g.char = '#')

/-- A plain scalar: its text, the white space after it, and the rest. -/
def plainFrom (inFlow : Bool) (indent : Nat) :
    Gap → List Char → List Glyph → Option (List Char × Gap × List Glyph)
  | gap, word, [] => some (word.reverse, gap, [])
  | gap, word, g :: rest =>
      if isSpace g.char then
        if gap.isBroken ∧ g.column < indent ∧ g.char = '\t' then none
        else plainFrom inFlow indent (gap.extend g.char) word rest
      else if endsAtGap inFlow indent gap (g :: rest) then some (word.reverse, gap, g :: rest)
      else if strayColon inFlow g.char rest then none
      else if endsPlain inFlow g.char rest then some (word.reverse, gap, g :: rest)
      else plainFrom inFlow indent (.inline []) (g.char :: (gap.text.reverse ++ word)) rest

/-! ## Quoted scalars -/

/-- The characters that a backslash and a letter stand for. -/
def escape? : Char → Option Char
  | '0' => some '\x00'
  | 'a' => some '\x07'
  | 'b' => some '\x08'
  | 't' | '\t' => some '\t'
  | 'n' => some '\n'
  | 'v' => some '\x0b'
  | 'f' => some '\x0c'
  | 'r' => some '\r'
  | 'e' => some '\x1b'
  | ' ' => some ' '
  | '"' => some '"'
  | '/' => some '/'
  | '\\' => some '\\'
  | 'N' => some '\u0085'
  | '_' => some '\u00a0'
  | 'L' => some '\u2028'
  | 'P' => some '\u2029'
  | _ => none

/-- The number of hexadecimal digits that follow a letter after a backslash. -/
def escapeWidth? : Char → Option Nat
  | 'x' => some 2
  | 'u' => some 4
  | 'U' => some 8
  | _ => none

/-- The value of a hexadecimal digit. -/
def hexDigit? (c : Char) : Option Nat :=
  if c.isDigit then some (c.toNat - 48)
  else if 'a' ≤ c ∧ c ≤ 'f' then some (c.toNat - 87)
  else if 'A' ≤ c ∧ c ≤ 'F' then some (c.toNat - 55)
  else none

/-- The value of a number of hexadecimal digits. -/
def hexNumber? : Nat → Nat → List Glyph → Option (Nat × List Glyph)
  | 0, total, rest => some (total, rest)
  | _ + 1, _, [] => none
  | width + 1, total, g :: rest => do
      let digit ← hexDigit? g.char
      hexNumber? width (16 * total + digit) rest

/-- The character with a number, if there is one. -/
def charOf? (code : Nat) : Option Char :=
  if code.isValidChar then some (Char.ofNat code) else none

/-- What follows a backslash. -/
def escaped? : List Glyph → Option (Char × List Glyph)
  | [] => none
  | g :: rest =>
      match escape? g.char, escapeWidth? g.char with
      | some c, _ => some (c, rest)
      | none, some width => do
          let (code, rest) ← hexNumber? width 0 rest
          let c ← charOf? code
          pure (c, rest)
      | none, none => none

/-- A scalar after its opening quote: its text and the rest. The first argument bounds the
number of steps. -/
def quotedFrom (quote : Char) :
    Nat → Gap → List Char → List Glyph → Option (List Char × List Glyph)
  | 0, _, _, _ => none
  | _, _, _, [] => none
  | fuel + 1, gap, text, g :: rest =>
      if atDivider (g :: rest) then none
      else if isSpace g.char then quotedFrom quote fuel (gap.extend g.char) text rest
      else
        let text := gap.text.reverse ++ text
        if g.char = quote then
          if quote = '\'' ∧ startsWith '\'' rest then
            quotedFrom quote fuel (.inline []) ('\'' :: text) (rest.drop 1)
          else
            some (text.reverse, rest)
        else if quote = '"' ∧ g.char = '\\' then
          if (front? rest).any isBreak then
            quotedFrom quote fuel (.broken [] []) text (rest.drop 1)
          else do
            let (c, rest) ← escaped? rest
            quotedFrom quote fuel (.inline []) (c :: text) rest
        else
          quotedFrom quote fuel (.inline []) (g.char :: text) rest

/-! ## Block scalars -/

/-- What becomes of the line ends at the end of a block scalar. -/
inductive Chomping where
  | clip
  | strip
  | keep
deriving DecidableEq, Repr

/-- The chomping that a sign asks for. -/
def chomping? : Char → Option Chomping
  | '+' => some .keep
  | '-' => some .strip
  | _ => none

/-- The indentation that a digit asks for. -/
def increment? (c : Char) : Option Nat :=
  if '1' ≤ c ∧ c ≤ '9' then some (c.toNat - 48) else none

/-- The header of a block scalar: a sign and a digit in either order, each of them optional. -/
def blockHeader (text : List Glyph) : Chomping × Option Nat × List Glyph :=
  match (front? text).bind chomping?, (front? text).bind increment? with
  | some chomping, _ =>
      match (front? (text.drop 1)).bind increment? with
      | some increment => (chomping, some increment, text.drop 2)
      | none => (chomping, none, text.drop 1)
  | none, some increment =>
      match (front? (text.drop 1)).bind chomping? with
      | some chomping => (chomping, some increment, text.drop 2)
      | none => (.clip, some increment, text.drop 1)
  | none, none => (.clip, none, text)

/-- The rest after a line that may hold blanks and then a comment; anything else is refused. -/
def restOfLine? (text : List Glyph) : Option (List Glyph) :=
  let afterBlanks := text.dropWhile (fun g => isBlank g.char)
  let atEnd :=
    if startsWith '#' afterBlanks then afterBlanks.dropWhile (fun g => !isBreak g.char)
    else afterBlanks
  match atEnd with
  | [] => some []
  | g :: rest => if isBreak g.char then some rest else none

/-- The empty lines before a line with text, the rest, and the greatest column met. While the
indentation is not known it is `none`. -/
def emptyLines (indent : Option Nat) (widest : Nat) (breaks : List Char) :
    List Glyph → Option (List Char × Nat × List Glyph)
  | [] => some (breaks, widest, [])
  | g :: rest =>
      if g.char = ' ' ∧ indent.all (fun n => decide (g.column < n)) then
        emptyLines indent widest breaks rest
      else if g.char = '\t' ∧ indent.all (fun n => decide (g.column < n)) then none
      else if isBreak g.char then
        emptyLines indent (max widest g.column) (breaks ++ [g.char]) rest
      else some (breaks, max widest g.column, g :: rest)

/-- What is known of a block scalar in front of one of its lines. -/
structure BlockState where
  text : List Char := []
  lineEnd : List Char := []
  breaks : List Char := []
  afterBlank : Bool := false

/-- The text with the line ends in front of a line, which a folded scalar makes one space
between two lines that do not begin with a blank. -/
def BlockState.join (state : BlockState) (folded startsBlank : Bool) : List Char :=
  if folded ∧ state.lineEnd = ['\n'] ∧ !state.afterBlank ∧ !startsBlank then
    state.text ++ (if state.breaks.isEmpty then [' '] else state.breaks)
  else
    state.text ++ state.lineEnd ++ state.breaks

/-- The lines of a block scalar of known indentation. The first argument bounds their number. -/
def blockLines (folded : Bool) (indent : Nat) :
    Nat → BlockState → List Glyph → Option (BlockState × List Glyph)
  | 0, state, rest => some (state, rest)
  | _, state, [] => some (state, [])
  | fuel + 1, state, g :: rest =>
      if g.column ≠ indent then some (state, g :: rest)
      else do
        let line := (g :: rest).takeWhile (fun g => !isBreak g.char)
        let afterLine := (g :: rest).dropWhile (fun g => !isBreak g.char)
        let text := state.join folded (isBlank g.char) ++ line.map Glyph.char
        let lineEnd := (afterLine.take 1).map Glyph.char
        let (breaks, _, rest) ← emptyLines (some indent) 0 [] (afterLine.drop 1)
        blockLines folded indent fuel ⟨text, lineEnd, breaks, isBlank g.char⟩ rest

/-- The text of a block scalar with what its header leaves of the line ends at its end. -/
def BlockState.finish (state : BlockState) : Chomping → List Char
  | .strip => state.text
  | .clip => state.text ++ state.lineEnd
  | .keep => state.text ++ state.lineEnd ++ state.breaks

/-- A block scalar after its mark inside a block of some indentation, which is `none` at the top.
The greatest column of the empty lines at its start, if it is not stated, is its own. -/
def block? (folded : Bool) (outer : Option Nat) (text : List Glyph) :
    Option (List Char × List Glyph) := do
  let (chomping, increment, text) := blockHeader text
  let text ← restOfLine? text
  let stated := increment.map (outer.getD 0 + ·)
  let (breaks, widest, rest) ← emptyLines stated 0 [] text
  let indent := stated.getD (max widest ((outer.map (· + 1)).getD 0 |> max 1))
  let (state, rest) ← blockLines folded indent rest.length ⟨[], [], breaks, false⟩ rest
  pure (state.finish chomping, rest)

end SchemaGuard.Yaml
