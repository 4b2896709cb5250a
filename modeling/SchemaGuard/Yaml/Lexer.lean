import SchemaGuard.Yaml.Scalar

/-! # Reading tokens

Tokens are read from left to right. A block opens where something stands further to the
right than before and closes where something stands further to the left. Whether a scalar
is a key is known only at the colon after it, so the place of every possible key is kept,
and the token that announces the key is put there afterwards. A possible key reaches no
further than its line and 1024 characters.
-/

namespace SchemaGuard.Yaml

/-- A place where a key may have begun. -/
structure PossibleKey where
  required : Bool
  position : Nat
  line : Nat
  column : Nat

/-- What is known between two tokens: the tokens so far, last first, with their number; for every
open bracket, and for what is outside of them, the possible key; the columns of the open blocks,
innermost first; and whether a key may begin here. -/
structure LexState where
  tokens : List Token := []
  count : Nat := 0
  keys : List (Option PossibleKey) := [none]
  blocks : List Nat := []
  keyAllowed : Bool := true

namespace LexState

/-- Whether a bracket is open. -/
def inFlow (state : LexState) : Bool :=
  decide (1 < state.keys.length)

/-- Adds a token at the end. -/
def push (state : LexState) (token : Token) : LexState :=
  { state with tokens := token :: state.tokens, count := state.count + 1 }

/-- Adds a token in front of the one with a given number. -/
def insertAt (state : LexState) (position : Nat) (token : Token) : LexState :=
  { state with
    tokens := state.tokens.insertIdx (state.count - position) token
    count := state.count + 1 }

/-- Says whether a key may begin next. -/
def allowKey (state : LexState) (allowed : Bool) : LexState :=
  { state with keyAllowed := allowed }

/-- Gives up the possible key of the current level, which must not be one that is required. -/
def dropKey (state : LexState) : Option LexState :=
  match state.keys with
  | some key :: outer => if key.required then none else some { state with keys := none :: outer }
  | _ => some state

/-- Notes that a key may begin at a character. -/
def noteKey (state : LexState) (g : Glyph) : Option LexState :=
  if state.keyAllowed then do
    let state ← state.dropKey
    let required := !state.inFlow && state.blocks.head? == some g.column
    let key : PossibleKey := ⟨required, state.count, g.line, g.column⟩
    pure { state with keys := some key :: state.keys.drop 1 }
  else some state

/-- The length of the longest key. -/
def keyLimit : Nat := 1024

/-- A possible key as it stands at a later character: out of reach, it is given up. -/
def stillPossible (g : Glyph) : Option PossibleKey → Option (Option PossibleKey)
  | none => some none
  | some key =>
      if key.line < g.line ∨ key.column + keyLimit < g.column then
        if key.required then none else some none
      else some (some key)

/-- Gives up the keys that are out of reach at a character. -/
def dropStale (state : LexState) (g : Glyph) : Option LexState := do
  let keys ← state.keys.mapM (stillPossible g)
  pure { state with keys }

/-- Opens a block at a column further to the right than those before. The token goes to the given
place, or to the end. -/
def openBlock (state : LexState) (column : Nat) (token : Token) (position : Option Nat) :
    LexState :=
  if state.inFlow ∨ state.blocks.head?.any (fun block => decide (column ≤ block)) then state
  else
    let state := { state with blocks := column :: state.blocks }
    match position with
    | some position => state.insertAt position token
    | none => state.push token

/-- Closes the blocks in a list that are further to the right than a column; without a column,
all of them. -/
def closeFrom (column : Option Nat) : List Nat → LexState → LexState
  | [], state => { state with blocks := [] }
  | block :: outer, state =>
      if column.all (fun column => decide (column < block)) then
        closeFrom column outer (state.push .blockEnd)
      else { state with blocks := block :: outer }

/-- Closes the blocks that are further to the right than a column, unless a bracket is open. -/
def closeBlocks (state : LexState) (column : Option Nat) : LexState :=
  if state.inFlow then state else closeFrom column state.blocks state

end LexState

/-- The rest after blanks, comments and line ends, and whether a key may begin there. A tab is
blank inside brackets and where no key may begin. -/
def skipToToken (inFlow : Bool) : Bool → Bool → List Glyph → Bool × List Glyph
  | _, allowed, [] => (allowed, [])
  | inComment, allowed, g :: rest =>
      if isBreak g.char then skipToToken inFlow false (allowed || !inFlow) rest
      else if inComment then skipToToken inFlow true allowed rest
      else if g.char = ' ' || (g.char = '\t' && (inFlow || !allowed)) then
        skipToToken inFlow false allowed rest
      else if g.char = '#' then skipToToken inFlow true allowed rest
      else (allowed, g :: rest)

/-! ## Names, tags and directives -/

/-- Whether a character may stand in a name. -/
def isNameChar (c : Char) : Bool :=
  c.isAlphanum || c = '_' || c = '-'

/-- The name at the start of a text. -/
def nameOf (text : List Glyph) : List Char :=
  (text.takeWhile (fun g => isNameChar g.char)).map Glyph.char

/-- The name of an anchor or an alias and the rest. -/
def anchorName? (text : List Glyph) : Option (String × List Glyph) :=
  let name := nameOf text
  let rest := text.drop name.length
  let closes (c : Char) : Bool :=
    c = '?' || c = ':' || c = ',' || c = ']' || c = '\x7d' || c = '%' || c = '@' || c = '\x60'
  if name ≠ [] ∧ (endsWord rest ∨ (front? rest).any closes) then
    some (String.ofList name, rest)
  else
    none

/-- Whether a character may stand in a tag. -/
def isTagChar (verbatim : Bool) (c : Char) : Bool :=
  isNameChar c || [';', '/', '?', ':', '@', '&', '=', '+', '$', '.', '!', '~', '*', '\'', '(',
    ')'].contains c || (verbatim && (c = ',' || c = '[' || c = ']'))

/-- The octet that a percent sign and two digits stand for. -/
def octet? : List Glyph → Option (Nat × List Glyph)
  | [] => none
  | g :: rest => if g.char = '%' then hexNumber? 2 0 rest else none

/-- The number of octets after the first one of a character, and the part of the first one that
counts. -/
def octetLead? (octet : Nat) : Option (Nat × Nat) :=
  if octet < 0x80 then some (0, octet)
  else if 0xc0 ≤ octet ∧ octet < 0xe0 then some (1, octet - 0xc0)
  else if 0xe0 ≤ octet ∧ octet < 0xf0 then some (2, octet - 0xe0)
  else if 0xf0 ≤ octet ∧ octet < 0xf8 then some (3, octet - 0xf0)
  else none

/-- The character number that further octets complete. -/
def octetTail? : Nat → Nat → List Glyph → Option (Nat × List Glyph)
  | 0, total, rest => some (total, rest)
  | count + 1, total, rest => do
      let (octet, rest) ← octet? rest
      if 0x80 ≤ octet ∧ octet < 0xc0 then octetTail? count (64 * total + (octet - 0x80)) rest
      else none

/-- A character that is written as its octets. -/
def octetChar? (text : List Glyph) : Option (Char × List Glyph) := do
  let (octet, rest) ← octet? text
  let (count, lead) ← octetLead? octet
  let (code, rest) ← octetTail? count lead rest
  let c ← charOf? code
  pure (c, rest)

/-- The characters of a tag. The first argument bounds the number of steps. -/
def tagText? (verbatim : Bool) :
    Nat → List Char → List Glyph → Option (List Char × List Glyph)
  | 0, text, rest => some (text.reverse, rest)
  | _, text, [] => some (text.reverse, [])
  | fuel + 1, text, g :: rest =>
      if g.char = '%' then do
        let (c, rest) ← octetChar? (g :: rest)
        tagText? verbatim fuel (c :: text) rest
      else if isTagChar verbatim g.char then tagText? verbatim fuel (g.char :: text) rest
      else some (text.reverse, g :: rest)

/-- A tag between angle brackets, after the first of them. -/
def verbatimTag? (text : List Glyph) : Option (Token × List Glyph) := do
  let (name, rest) ← tagText? true text.length [] text
  if name ≠ [] ∧ startsWith '>' rest then
    pure (.tag "" (String.ofList name), rest.drop 1)
  else
    none

/-- A tag after its exclamation mark: a handle between two marks and a suffix, or a suffix, or
nothing. -/
def shortTag? (text : List Glyph) : Option (Token × List Glyph) := do
  let name := nameOf text
  let rest := text.drop name.length
  if startsWith '!' rest then
    let (suffix, rest) ← tagText? false rest.length [] (rest.drop 1)
    if suffix = [] then none
    else pure (.tag ("!" ++ String.ofList name ++ "!") (String.ofList suffix), rest)
  else
    let (suffix, rest) ← tagText? false rest.length [] rest
    let suffix := String.ofList (name ++ suffix)
    pure (if suffix.isEmpty then .tag "" "!" else .tag "!" suffix, rest)

/-- A tag after its exclamation mark and the rest, which begins no word. -/
def tag? (inFlow : Bool) (text : List Glyph) : Option (Token × List Glyph) := do
  let (token, rest) ←
    if startsWith '<' text then verbatimTag? (text.drop 1) else shortTag? text
  if endsWord rest ∨ (inFlow ∧ startsWith ',' rest) then pure (token, rest) else none

/-- The rest after blanks. -/
def dropBlanks (text : List Glyph) : List Glyph :=
  text.dropWhile (fun g => isBlank g.char)

/-- One to nine digits and the rest. -/
def versionNumber? (text : List Glyph) : Option (Nat × List Glyph) :=
  let digits := (text.takeWhile (fun g => g.char.isDigit)).map Glyph.char
  if digits ≠ [] ∧ digits.length ≤ 9 then
    some (Numeral.natural digits, text.drop digits.length)
  else
    none

/-- The version in a directive. Only 1.1 and 1.2 are known. -/
def version? (text : List Glyph) : Option (Token × List Glyph) := do
  let (major, rest) ← versionNumber? (dropBlanks text)
  if startsWith '.' rest then
    let (minor, rest) ← versionNumber? (rest.drop 1)
    pure (.version (major = 1 && (minor = 1 || minor = 2)), rest)
  else
    none

/-- The handle and its meaning in a directive. -/
def tagHandle? (text : List Glyph) : Option (Token × List Glyph) := do
  let text := dropBlanks text
  if !startsWith '!' text then none
  else
    let name := nameOf (text.drop 1)
    let rest := text.drop (name.length + 1)
    let isNamed := startsWith '!' rest
    let handle := if isNamed then "!" ++ String.ofList name ++ "!" else "!"
    let rest := if isNamed then rest.drop 1 else rest
    if (!isNamed ∧ name ≠ []) ∨ !(front? rest).any isBlank then none
    else
      let rest := dropBlanks rest
      let (meaning, rest) ← tagText? true rest.length [] rest
      if meaning = [] ∨ !endsWord rest then none
      else pure (.tagHandle handle (String.ofList meaning), rest)

/-- A directive after its percent sign. -/
def directive? (text : List Glyph) : Option (Token × List Glyph) := do
  let name := nameOf text
  let rest := text.drop name.length
  if !endsWord rest then none
  else
    let (token, rest) ← match String.ofList name with
      | "YAML" => version? rest
      | "TAG" => tagHandle? rest
      | _ => none
    let rest ← restOfLine? rest
    pure (token, rest)

/-! ## Single tokens -/

namespace LexState

/-- A token that ends all blocks. -/
def boundary (state : LexState) (token : Token) : Option LexState := do
  let state ← (state.closeBlocks none).dropKey
  pure ((state.allowKey false).push token)

/-- An opening bracket. -/
def openFlow (state : LexState) (g : Glyph) (token : Token) : Option LexState := do
  let state ← state.noteKey g
  pure ((({ state with keys := none :: state.keys }).allowKey true).push token)

/-- A closing bracket. -/
def closeFlow (state : LexState) (token : Token) : Option LexState := do
  let state ← state.dropKey
  let keys := if state.inFlow then state.keys.drop 1 else state.keys
  pure ((({ state with keys }).allowKey false).push token)

/-- A comma between the entries of brackets. -/
def flowEntry (state : LexState) : Option LexState := do
  let state ← state.dropKey
  pure ((state.allowKey true).push .flowEntry)

/-- A mark before an entry or a key, which opens a block outside of brackets if it may. -/
def marked (state : LexState) (g : Glyph) (block token : Token) (allowed : Bool) :
    Option LexState :=
  if !state.inFlow ∧ !state.keyAllowed then none
  else do
    let state ← (state.openBlock g.column block none).dropKey
    pure ((state.allowKey allowed).push token)

/-- A colon: what may have been a key before it is one. -/
def value (state : LexState) (g : Glyph) : Option LexState :=
  match state.keys with
  | some key :: outer =>
      let state := (state.insertAt key.position .key).openBlock key.column .blockMapping
        (some key.position)
      some ((({ state with keys := none :: outer }).allowKey false).push .value)
  | _ =>
      if state.inFlow then some ((state.allowKey false).push .value)
      else if !state.keyAllowed then none
      else some (((state.openBlock g.column .blockMapping none).allowKey true).push .value)

/-- A token that may begin a key. -/
def atom (state : LexState) (g : Glyph) (token : Token) : Option LexState := do
  let state ← state.noteKey g
  pure ((state.allowKey false).push token)

end LexState

/-- A block scalar after its mark. -/
def blockScalar? (state : LexState) (style : Style) (rest : List Glyph) :
    Option (LexState × List Glyph) := do
  let state ← state.dropKey
  let (text, rest) ← block? (style == .folded) state.blocks.head? rest
  pure ((state.allowKey true).push (.scalar (String.ofList text) style), rest)

/-- Whether a character may begin a plain scalar. -/
def beginsPlain (inFlow : Bool) (c : Char) (rest : List Glyph) : Bool :=
  if c = '-' then !(front? rest).any isBlank
  else if c = '?' || c = ':' then !inFlow && !endsWord rest
  else !isSpace c && !endsInFlow c &&
    !(['#', '&', '*', '!', '|', '>', '\'', '"', '%', '@', '\x60'].contains c)

/-- A plain scalar. -/
def plainScalar? (state : LexState) (g : Glyph) (rest : List Glyph) :
    Option (LexState × List Glyph) := do
  if !beginsPlain state.inFlow g.char rest then none
  else
    let state ← state.noteKey g
    let indent := (state.blocks.head?.map (· + 1)).getD 0
    let (text, gap, rest) ← plainFrom state.inFlow indent (.inline []) [] (g :: rest)
    pure ((state.allowKey gap.isBroken).push (.scalar (String.ofList text) .plain), rest)

/-- Reads a quoted scalar after its opening quote. -/
def quotedScalar? (state : LexState) (g : Glyph) (rest : List Glyph) :
    Option (LexState × List Glyph) := do
  let (text, rest) ← quotedFrom g.char (rest.length + 1) (.inline []) [] rest
  let state ← state.atom g (.scalar (String.ofList text) .quoted)
  pure (state, rest)

/-- Reads the token that begins with a character. -/
def lexOne (state : LexState) (g : Glyph) (rest : List Glyph) :
    Option (LexState × List Glyph) := do
  let marksWord := state.inFlow || endsWord rest
  if g.column = 0 ∧ g.char = '%' then
    let state ← (state.closeBlocks none).dropKey
    let (token, rest) ← directive? rest
    pure ((state.allowKey false).push token, rest)
  else if isDivider '-' (g :: rest) then
    pure (← state.boundary .documentStart, rest.drop 2)
  else if isDivider '.' (g :: rest) then
    pure (← state.boundary .documentEnd, rest.drop 2)
  else if g.char = '[' then pure (← state.openFlow g .flowSequence, rest)
  else if g.char = '\x7b' then pure (← state.openFlow g .flowMapping, rest)
  else if g.char = ']' then pure (← state.closeFlow .flowSequenceEnd, rest)
  else if g.char = '\x7d' then pure (← state.closeFlow .flowMappingEnd, rest)
  else if g.char = ',' then pure (← state.flowEntry, rest)
  else if g.char = '-' ∧ endsWord rest then
    pure (← state.marked g .blockSequence .blockEntry true, rest)
  else if g.char = '?' ∧ marksWord then
    pure (← state.marked g .blockMapping .key !state.inFlow, rest)
  else if g.char = ':' ∧ marksWord then pure (← state.value g, rest)
  else if g.char = '*' then
    let (name, rest) ← anchorName? rest
    pure (← state.atom g (.alias name), rest)
  else if g.char = '&' then
    let (name, rest) ← anchorName? rest
    pure (← state.atom g (.anchor name), rest)
  else if g.char = '!' then
    let (token, rest) ← tag? state.inFlow rest
    pure (← state.atom g token, rest)
  else if g.char = '|' ∧ !state.inFlow then blockScalar? state .literal rest
  else if g.char = '>' ∧ !state.inFlow then blockScalar? state .folded rest
  else if g.char = '\'' ∨ g.char = '"' then quotedScalar? state g rest
  else plainScalar? state g rest

/-- Reads the tokens of a text. The first argument bounds their number. -/
def lexFrom : Nat → LexState → List Glyph → Option LexState
  | 0, _, _ => none
  | fuel + 1, state, text =>
      let (allowed, text) := skipToToken state.inFlow false state.keyAllowed text
      let state := state.allowKey allowed
      match text with
      | [] => (state.closeBlocks none).dropKey
      | g :: rest => do
          let state ← state.dropStale g
          let (state, rest) ← lexOne (state.closeBlocks (some g.column)) g rest
          lexFrom fuel state rest

/-- The tokens of a text; `none` if it is malformed. -/
def tokens? (text : String) : Option (List Token) := do
  let glyphs ← place? text
  let state ← lexFrom (glyphs.length + 1) {} glyphs
  pure state.tokens.reverse

end SchemaGuard.Yaml
