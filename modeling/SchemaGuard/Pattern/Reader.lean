import SchemaGuard.Pattern.Syntax
import SchemaGuard.Number.Numeral

/-! # Reading patterns

The written form of patterns: sets in brackets with ranges, named classes and the
operations `&&`, `--` and `~~`; groups with or without a name; flags for case, lines,
blanks and words; and repetition marks. There are no references to earlier groups and no
conditions on what lies ahead or behind.
-/

namespace SchemaGuard.Pattern

/-- The switches that a pattern may set for the rest of a group. -/
structure Flags where
  insensitive : Bool := false
  multiLine : Bool := false
  dotAll : Bool := false
  verbose : Bool := false
  returnsEndLines : Bool := false
  unicode : Bool := true

/-- What a backslash and the characters after it denote. -/
inductive Escaped where
  | literal (code : Nat)
  | set (set : CharSet)
  | look (anchor : Anchor)

/-- Drops blanks, and comments to the end of their line, where the pattern is verbose. -/
def skipBlanks (flags : Flags) (text : List Char) : List Char :=
  if flags.verbose then blanksFrom false text else text
where
  /-- The flag tells whether a comment is open. -/
  blanksFrom : Bool → List Char → List Char
    | _, [] => []
    | true, c :: rest => blanksFrom (c != '\n') rest
    | false, c :: rest =>
        if c = '#' then blanksFrom true rest
        else if Unicode.isBlank c then blanksFrom false rest
        else c :: rest

/-- The letters and digits of ASCII with the underscore. -/
def asciiWord : CharSet :=
  .ranges [(0x30, 0x39), (0x41, 0x5a), (0x5f, 0x5f), (0x61, 0x7a)]

/-- The characters that form words. -/
def wordSet (flags : Flags) : CharSet :=
  if flags.unicode then .named .word else asciiWord

/-- The ASCII classes that brackets may name. -/
def asciiClass? (name : String) : Option CharSet :=
  match name with
  | "alnum" => some (.ranges [(0x30, 0x39), (0x41, 0x5a), (0x61, 0x7a)])
  | "alpha" => some (.ranges [(0x41, 0x5a), (0x61, 0x7a)])
  | "ascii" => some (.range 0 0x7f)
  | "blank" => some (.ranges [(9, 9), (0x20, 0x20)])
  | "cntrl" => some (.ranges [(0, 0x1f), (0x7f, 0x7f)])
  | "digit" => some (.range 0x30 0x39)
  | "graph" => some (.range 0x21 0x7e)
  | "lower" => some (.range 0x61 0x7a)
  | "print" => some (.range 0x20 0x7e)
  | "punct" => some (.ranges [(0x21, 0x2f), (0x3a, 0x40), (0x5b, 0x60), (0x7b, 0x7e)])
  | "space" => some (.ranges [(9, 13), (0x20, 0x20)])
  | "upper" => some (.range 0x41 0x5a)
  | "word" => some asciiWord
  | "xdigit" => some (.ranges [(0x30, 0x39), (0x41, 0x46), (0x61, 0x66)])
  | _ => none

/-- The union of some general categories. -/
def categories (list : List Unicode.Category) : CharSet :=
  .unions (list.map (fun category => .named (.category category)))

/-- The classes of letters whose case can be told. -/
def casedLetters : List Unicode.Category :=
  [.uppercaseLetter, .lowercaseLetter, .titlecaseLetter]

/-- A general category, or a group of them, by its long or short name. -/
def categorySet? (name : String) : Option CharSet :=
  match name with
  | "lu" | "uppercaseletter" => some (categories [.uppercaseLetter])
  | "ll" | "lowercaseletter" => some (categories [.lowercaseLetter])
  | "lt" | "titlecaseletter" => some (categories [.titlecaseLetter])
  | "lm" | "modifierletter" => some (categories [.modifierLetter])
  | "lo" | "otherletter" => some (categories [.otherLetter])
  | "lc" | "casedletter" => some (categories casedLetters)
  | "l" | "letter" => some (categories (casedLetters ++ [.modifierLetter, .otherLetter]))
  | "mn" | "nonspacingmark" => some (categories [.nonspacingMark])
  | "mc" | "spacingmark" => some (categories [.spacingMark])
  | "me" | "enclosingmark" => some (categories [.enclosingMark])
  | "m" | "mark" | "combiningmark" =>
      some (categories [.nonspacingMark, .spacingMark, .enclosingMark])
  | "nd" | "decimalnumber" | "digit" => some (categories [.decimalNumber])
  | "nl" | "letternumber" => some (categories [.letterNumber])
  | "no" | "othernumber" => some (categories [.otherNumber])
  | "n" | "number" => some (categories [.decimalNumber, .letterNumber, .otherNumber])
  | "pc" | "connectorpunctuation" => some (categories [.connectorPunctuation])
  | "pd" | "dashpunctuation" => some (categories [.dashPunctuation])
  | "ps" | "openpunctuation" => some (categories [.openPunctuation])
  | "pe" | "closepunctuation" => some (categories [.closePunctuation])
  | "pi" | "initialpunctuation" => some (categories [.initialPunctuation])
  | "pf" | "finalpunctuation" => some (categories [.finalPunctuation])
  | "po" | "otherpunctuation" => some (categories [.otherPunctuation])
  | "p" | "punctuation" | "punct" =>
      some (categories [.connectorPunctuation, .dashPunctuation, .openPunctuation,
        .closePunctuation, .initialPunctuation, .finalPunctuation, .otherPunctuation])
  | "sm" | "mathsymbol" => some (categories [.mathSymbol])
  | "sc" | "currencysymbol" => some (categories [.currencySymbol])
  | "sk" | "modifiersymbol" => some (categories [.modifierSymbol])
  | "so" | "othersymbol" => some (categories [.otherSymbol])
  | "s" | "symbol" =>
      some (categories [.mathSymbol, .currencySymbol, .modifierSymbol, .otherSymbol])
  | "zs" | "spaceseparator" => some (categories [.spaceSeparator])
  | "zl" | "lineseparator" => some (categories [.lineSeparator])
  | "zp" | "paragraphseparator" => some (categories [.paragraphSeparator])
  | "z" | "separator" =>
      some (categories [.spaceSeparator, .lineSeparator, .paragraphSeparator])
  | "cc" | "control" | "cntrl" => some (categories [.control])
  | "cf" | "format" => some (categories [.format])
  | "co" | "privateuse" => some (categories [.privateUse])
  | "cn" | "unassigned" => some (.complement (.named .assigned))
  | "c" | "other" =>
      some (.union (categories [.control, .format, .privateUse])
        (.complement (.named .assigned)))
  | _ => none

/-- A property of characters by its long or short name. -/
def propertySet? (name : String) : Option CharSet :=
  match name with
  | "any" => some (.range 0 0x10ffff)
  | "assigned" => some (.named .assigned)
  | "ascii" => some (.range 0 0x7f)
  | "alphabetic" | "alpha" => some (.named .alphabetic)
  | "whitespace" | "wspace" | "space" => some (.named .blank)
  | "lowercase" | "lower" => some (.named .lowercase)
  | "uppercase" | "upper" => some (.named .uppercase)
  | "cased" => some (.named .cased)
  | "caseignorable" | "ci" => some (.named .caseIgnorable)
  | _ => none

/-- A name in lower case without the separators that do not count. -/
def looseName (name : List Char) : String :=
  let kept := (name.filter (fun c => c != ' ' && c != '_' && c != '-')).map Char.toLower
  match kept with
  | 'i' :: 's' :: rest =>
      if rest.isEmpty ∨ rest = ['c'] then String.ofList kept else String.ofList rest
  | _ => String.ofList kept

/-- The class that a name, or a name with a value, denotes. -/
def unicodeSet? (body : List Char) : Option CharSet :=
  let valued (key value : List Char) : Option CharSet :=
    match looseName key with
    | "gc" | "generalcategory" => categorySet? (looseName value)
    | "sc" | "script" | "scx" | "scriptextensions" =>
        (Unicode.scriptRanges? (looseName value)).map .ranges
    | _ => none
  let isMark (c : Char) : Bool := c == '=' || c == ':' || c == '!'
  let key := body.takeWhile (fun c => !isMark c)
  match body.dropWhile (fun c => !isMark c) with
  | '!' :: '=' :: value => (valued key value).map .complement
  | '=' :: value => valued key value
  | ':' :: value => valued key value
  | _ =>
      let name := looseName body
      propertySet? name <|> categorySet? name <|>
        (Unicode.scriptRanges? name).map .ranges

/-- A class after `\p` or `\P`: one letter, or a name in braces that may be negated. -/
def readProperty? (negated : Bool) : List Char → Option (CharSet × List Char)
  | '\x7b' :: rest =>
      let body := rest.takeWhile (· != '\x7d')
      match rest.drop body.length with
      | '\x7d' :: after =>
          let (inner, name) := match body with
            | '^' :: name => (true, name)
            | name => (false, name)
          (unicodeSet? name).map (fun set => (.negatedIf (negated != inner) set, after))
      | _ => none
  | '\\' :: _ => none
  | c :: rest => (unicodeSet? [c]).map (fun set => (.negatedIf negated set, rest))
  | [] => none

/-- The value of a hexadecimal digit. -/
def hexDigit? (c : Char) : Option Nat :=
  if c.isDigit then some (c.toNat - '0'.toNat)
  else if 'a' ≤ c ∧ c ≤ 'f' then some (c.toNat - 'a'.toNat + 10)
  else if 'A' ≤ c ∧ c ≤ 'F' then some (c.toNat - 'A'.toNat + 10)
  else none

/-- The code point written with the given digits. -/
def hexCode? (digits : List Char) : Option Nat := do
  let values ← digits.mapM hexDigit?
  let code := values.foldl (fun total value => 16 * total + value) 0
  if values ≠ [] ∧ (code < 0xd800 ∨ (0xdfff < code ∧ code ≤ 0x10ffff)) then some code
  else none

/-- A code point: digits in braces, or a fixed number of digits. -/
def readHex? (width : Nat) : List Char → Option (Nat × List Char)
  | '\x7b' :: rest =>
      let body := rest.takeWhile (· != '\x7d')
      match rest.drop body.length with
      | '\x7d' :: after => (hexCode? body).map (fun code => (code, after))
      | _ => none
  | text =>
      if text.length < width then none
      else (hexCode? (text.take width)).map (fun code => (code, text.drop width))

/-- The condition named in braces after `\b`; without a name the word boundary. -/
def readBoundary? (flags : Flags) (text : List Char) : Option (Anchor × List Char) :=
  let word := wordSet flags
  let isNameChar (c : Char) : Bool := c.isAlpha || c == '-'
  match text with
  | '\x7b' :: rest =>
      if rest.head?.any isNameChar then
        let name := rest.takeWhile isNameChar
        match rest.drop name.length with
        | '\x7d' :: after =>
            match String.ofList name with
            | "start" => some (.wordStart word, after)
            | "end" => some (.wordEnd word, after)
            | "start-half" => some (.wordStartHalf word, after)
            | "end-half" => some (.wordEndHalf word, after)
            | _ => none
        | _ => none
      else some (.boundary word, text)
  | _ => some (.boundary word, text)

/-- A class by letter. Without knowledge of all characters the complement is not text. -/
def letterSet? (flags : Flags) (negated : Bool) (full : NamedSet) (ascii : CharSet) :
    Option CharSet :=
  if flags.unicode then some (.negatedIf negated (.named full))
  else if negated then none
  else some ascii

/-- What follows a backslash. -/
def readEscape? (flags : Flags) : List Char → Option (Escaped × List Char)
  | [] => none
  | c :: rest =>
      let asSet (set : Option CharSet) : Option (Escaped × List Char) :=
        set.map (fun set => (.set set, rest))
      let digits : CharSet := .range 0x30 0x39
      let blanks : CharSet := .ranges [(9, 13), (0x20, 0x20)]
      match c with
      | 'x' => (readHex? 2 rest).map (fun (code, rest) => (.literal code, rest))
      | 'u' => (readHex? 4 rest).map (fun (code, rest) => (.literal code, rest))
      | 'U' => (readHex? 8 rest).map (fun (code, rest) => (.literal code, rest))
      | 'p' => (readProperty? false rest).map
          (fun (set, rest) => (.set (.withCase flags.insensitive set), rest))
      | 'P' => (readProperty? false rest).map
          (fun (set, rest) => (.set (.complement (.withCase flags.insensitive set)), rest))
      | 'd' => asSet (letterSet? flags false .digit digits)
      | 'D' => asSet (letterSet? flags true .digit digits)
      | 's' => asSet (letterSet? flags false .blank blanks)
      | 'S' => asSet (letterSet? flags true .blank blanks)
      | 'w' => asSet (letterSet? flags false .word asciiWord)
      | 'W' => asSet (letterSet? flags true .word asciiWord)
      | 'a' => some (.literal 7, rest)
      | 'f' => some (.literal 12, rest)
      | 't' => some (.literal 9, rest)
      | 'n' => some (.literal 10, rest)
      | 'r' => some (.literal 13, rest)
      | 'v' => some (.literal 11, rest)
      | 'A' => some (.look .textStart, rest)
      | 'z' => some (.look .textEnd, rest)
      | 'b' => (readBoundary? flags rest).map (fun (anchor, rest) => (.look anchor, rest))
      | 'B' => some (.look (.noBoundary (wordSet flags)), rest)
      | '<' => some (.look (.wordStart (wordSet flags)), rest)
      | '>' => some (.look (.wordEnd (wordSet flags)), rest)
      | c =>
          if c.isAlphanum ∨ 128 ≤ c.toNat then none else some (.literal c.toNat, rest)

/-- An ASCII class such as `[:alpha:]`, without the opening bracket. -/
def readAsciiClass? (flags : Flags) : List Char → Option (CharSet × List Char)
  | ':' :: rest =>
      let (negated, rest) := match rest with
        | '^' :: rest => (true, rest)
        | rest => (false, rest)
      let name := rest.takeWhile (· != ':')
      match rest.drop name.length with
      | ':' :: ']' :: after =>
          (asciiClass? (String.ofList name)).map
            (fun set => (.negatedIf negated (.withCase flags.insensitive set), after))
      | _ => none
  | _ => none

/-- One member of a set in brackets: a character or a class. -/
def readMember? (flags : Flags) : List Char → Option (Escaped × List Char)
  | [] => none
  | '\\' :: rest =>
      match readEscape? flags rest with
      | some (.look _, _) => none
      | result => result
  | c :: rest => some (.literal c.toNat, rest)

/-- The set of a member. -/
def Escaped.toSet : Escaped → CharSet
  | literal code => .single code
  | set s => s
  | look _ => .empty

/-- A member, or a range whose two ends are characters. -/
def readRange? (flags : Flags) (text : List Char) : Option (CharSet × List Char) := do
  let (first, rest) ← readMember? flags text
  match skipBlanks flags rest with
  | [] => none
  | '-' :: after =>
      match skipBlanks flags after with
      | [] => none
      | ']' :: _ | '-' :: _ => pure (first.toSet, skipBlanks flags rest)
      | after =>
          let (last, rest) ← readMember? flags after
          match first, last with
          | .literal low, .literal high =>
              if low ≤ high then pure (.range low high, rest) else none
          | _, _ => none
  | rest => pure (first.toSet, rest)

/-- Operations between sets in brackets. -/
inductive SetOperation where
  | inter
  | diff
  | symm

/-- The set so far: the operation that waits for its right operand, and the open union. -/
def closeOperation (flags : Flags) (pending : Option (CharSet × SetOperation))
    (members : CharSet) : CharSet :=
  let operand (set : CharSet) : CharSet := .withCase flags.insensitive set
  match pending with
  | none => members
  | some (left, .inter) => .inter (operand left) (operand members)
  | some (left, .diff) => .diff (operand left) (operand members)
  | some (left, .symm) => .symm (operand left) (operand members)

/-- The start of a set after its opening bracket: a mark of negation, hyphens, and a closing
bracket that stands for itself. -/
def readSetStart (flags : Flags) (text : List Char) : Bool × CharSet × List Char :=
  let (negated, text) := match text with
    | '^' :: rest => (true, skipBlanks flags rest)
    | text => (false, skipBlanks flags text)
  let hyphens := text.takeWhile (· == '-')
  let text := skipBlanks flags (text.drop hyphens.length)
  match hyphens, text with
  | [], ']' :: rest => (negated, .single ']'.toNat, rest)
  | [], text => (negated, .empty, text)
  | _, text => (negated, .single '-'.toNat, text)

mutual

/-- A set after its opening bracket, through its closing one. -/
def readSet? : Nat → Flags → List Char → Option (CharSet × List Char)
  | 0, _, _ => none
  | fuel + 1, flags, text =>
      let (negated, start, text) := readSetStart flags text
      match readSetBody? fuel flags none start text with
      | some (set, rest) =>
          if negated && !flags.unicode then none
          else some (.negatedIf negated (.withCase flags.insensitive set), rest)
      | none => none

/-- The members of a set up to its closing bracket. -/
def readSetBody? : Nat → Flags → Option (CharSet × SetOperation) → CharSet → List Char →
    Option (CharSet × List Char)
  | 0, _, _, _, _ => none
  | fuel + 1, flags, pending, members, text =>
      match skipBlanks flags text with
      | [] => none
      | ']' :: rest => some (closeOperation flags pending members, rest)
      | '&' :: '&' :: rest =>
          readSetBody? fuel flags (some (closeOperation flags pending members, .inter)) .empty rest
      | '-' :: '-' :: rest =>
          readSetBody? fuel flags (some (closeOperation flags pending members, .diff)) .empty rest
      | '~' :: '~' :: rest =>
          readSetBody? fuel flags (some (closeOperation flags pending members, .symm)) .empty rest
      | '[' :: rest =>
          match readAsciiClass? flags rest with
          | some (set, rest) => readSetBody? fuel flags pending (.union members set) rest
          | none =>
              match readSet? fuel flags rest with
              | some (set, rest) => readSetBody? fuel flags pending (.union members set) rest
              | none => none
      | text =>
          match readRange? flags text with
          | some (set, rest) => readSetBody? fuel flags pending (.union members set) rest
          | none => none

end

/-- A count with blanks around it. -/
def readCount? (text : List Char) : Option (Nat × List Char) :=
  let text := text.dropWhile Unicode.isBlank
  let digits := text.takeWhile Char.isDigit
  let count := Numeral.natural digits
  if digits.isEmpty ∨ 0x100000000 ≤ count then none
  else some (count, (text.drop digits.length).dropWhile Unicode.isBlank)

/-- The counts of a repetition after its opening brace, through its closing one. -/
def readCounts? (flags : Flags) (text : List Char) : Option (Nat × Option Nat × List Char) := do
  let (least, rest) ← readCount? (skipBlanks flags text)
  match rest with
  | '\x7d' :: rest => pure (least, some least, rest)
  | ',' :: rest =>
      match skipBlanks flags rest with
      | '\x7d' :: rest => pure (least, none, rest)
      | rest =>
          let (most, rest) ← readCount? rest
          match rest with
          | '\x7d' :: rest => if least ≤ most then pure (least, some most, rest) else none
          | _ => none
  | _ => none

/-- Drops the mark that asks for the shortest match, which does not change what matches. -/
def dropLazyMark : List Char → List Char
  | '?' :: rest => rest
  | text => text

/-- The letters of a group's flags up to its colon or closing parenthesis. The three arguments are
whether the letters are negated, those seen, and the flags so far. -/
def readFlags? : Bool → List Char → Flags → List Char → Option (Bool × Flags × List Char)
  | _, _, _, [] => none
  | negated, seen, flags, c :: rest =>
      if c = ':' ∨ c = ')' then
        if seen.head? = some '-' then none else some (!seen.isEmpty, flags, c :: rest)
      else if seen.contains c then none
      else
        let value := !negated
        match c with
        | '-' => readFlags? true (c :: seen) flags rest
        | 'i' => readFlags? negated (c :: seen) { flags with insensitive := value } rest
        | 'm' => readFlags? negated (c :: seen) { flags with multiLine := value } rest
        | 's' => readFlags? negated (c :: seen) { flags with dotAll := value } rest
        | 'x' => readFlags? negated (c :: seen) { flags with verbose := value } rest
        | 'u' => readFlags? negated (c :: seen) { flags with unicode := value } rest
        | 'R' => readFlags? negated (c :: seen) { flags with returnsEndLines := value } rest
        | 'U' => readFlags? negated (c :: seen) flags rest
        | _ => none

/-- Whether a character may stand in the name of a group, first or later. -/
def isNameChar (first : Bool) (c : Char) : Bool :=
  c == '_' || Unicode.isAlphabetic c ||
    (!first && (c == '.' || c == '[' || c == ']' || Unicode.isNumeric c))

/-- The name of a group up to the closing angle bracket. -/
def readName? (text : List Char) : Option (List Char × List Char) :=
  let name := text.takeWhile (· != '>')
  match text.drop name.length with
  | '>' :: rest =>
      if name.head?.any (isNameChar true) && name.tail.all (isNameChar false) then
        some (name, rest)
      else none
  | _ => none

/-- A part of a sequence with the height of its tree; flags cannot be repeated. -/
structure Part where
  node : Node
  height : Nat
  repeatable : Bool

/-- What has been read of a group: the names in use, the alternatives before the open one, and the
parts of the open one, last first. -/
structure OpenGroup where
  names : List (List Char)
  alternatives : List Part
  parts : List Part

/-- The sequence of parts, given last first. -/
def sequence (parts : List Part) : Part :=
  match parts with
  | [] => ⟨.empty, 0, false⟩
  | [part] => part
  | parts =>
      ⟨parts.foldl (fun node part => .seq part.node node) .empty,
        1 + (parts.map Part.height).foldl max 0, true⟩

/-- The alternatives of a finished group. -/
def OpenGroup.finish (group : OpenGroup) : Part :=
  let last := sequence group.parts
  match group.alternatives with
  | [] => last
  | alternatives =>
      ⟨alternatives.foldl (fun node part => .alt part.node node) last.node,
        1 + (alternatives.map Part.height).foldl max last.height, true⟩

/-- Adds a part to the open alternative. -/
def OpenGroup.add (group : OpenGroup) (part : Part) : OpenGroup :=
  { group with parts := part :: group.parts }

/-- Adds a part without parts of its own. -/
def OpenGroup.addLeaf (group : OpenGroup) (node : Node) : OpenGroup :=
  group.add ⟨node, 0, true⟩

/-- Repeats the last part. -/
def OpenGroup.repeatLast? (group : OpenGroup) (least : Nat) (most : Option Nat) :
    Option OpenGroup :=
  match group.parts with
  | part :: parts =>
      if part.repeatable then
        let whole := ⟨.repeated part.node least most, part.height + 1, true⟩
        some { group with parts := whole :: parts }
      else none
  | [] => none

/-- The set of a literal character under the flags in force. -/
def literalNode (flags : Flags) (code : Nat) : Node :=
  .set (.withCase flags.insensitive (.single code))

/-- The set of the dot under the flags in force. -/
def dotNode? (flags : Flags) : Option Node :=
  if !flags.unicode then none
  else if flags.dotAll then some (.set (.range 0 0x10ffff))
  else if flags.returnsEndLines then some (.set (.complement (.ranges [(10, 10), (13, 13)])))
  else some (.set (.complement (.single 10)))

/-- The largest height of a pattern's tree. -/
def maxHeight : Nat := 250

/-- Reads alternatives up to the end of the text or a closing parenthesis, which is left. -/
def readGroup? : Nat → Flags → OpenGroup → List Char → Option (OpenGroup × List Char)
  | 0, _, _, _ => none
  | fuel + 1, flags, group, text =>
      match skipBlanks flags text with
      | [] => some (group, [])
      | ')' :: rest => some (group, ')' :: rest)
      | '|' :: rest =>
          let alternatives := sequence group.parts :: group.alternatives
          readGroup? fuel flags { group with alternatives := alternatives, parts := [] } rest
      | '*' :: rest => do
          readGroup? fuel flags (← group.repeatLast? 0 none) (dropLazyMark rest)
      | '+' :: rest => do
          readGroup? fuel flags (← group.repeatLast? 1 none) (dropLazyMark rest)
      | '?' :: rest => do
          readGroup? fuel flags (← group.repeatLast? 0 (some 1)) (dropLazyMark rest)
      | '\x7b' :: rest => do
          let (least, most, rest) ← readCounts? flags rest
          readGroup? fuel flags (← group.repeatLast? least most) (dropLazyMark rest)
      | '[' :: rest => do
          let (set, rest) ← readSet? fuel flags rest
          readGroup? fuel flags (group.add ⟨.set set, 2, true⟩) rest
      | '.' :: rest => do
          readGroup? fuel flags (group.addLeaf (← dotNode? flags)) rest
      | '^' :: rest =>
          let anchor := if flags.multiLine then .lineStart flags.returnsEndLines else .textStart
          readGroup? fuel flags (group.addLeaf (.look anchor)) rest
      | '$' :: rest =>
          let anchor := if flags.multiLine then .lineEnd flags.returnsEndLines else .textEnd
          readGroup? fuel flags (group.addLeaf (.look anchor)) rest
      | '\\' :: rest =>
          match readEscape? flags rest with
          | some (.literal code, rest) =>
              readGroup? fuel flags (group.addLeaf (literalNode flags code)) rest
          | some (.set set, rest) => readGroup? fuel flags (group.addLeaf (.set set)) rest
          | some (.look anchor, rest) => readGroup? fuel flags (group.addLeaf (.look anchor)) rest
          | none => none
      | '(' :: rest =>
          -- The group's own flags, its names, and the text of its body.
          let body (inner : Flags) (names : List (List Char)) (text : List Char) :=
            match readGroup? fuel inner ⟨names, [], []⟩ text with
            | some (closed, ')' :: rest) =>
                let part := closed.finish
                let height := part.height + 1
                if maxHeight < height then none
                else
                  readGroup? fuel flags
                    ({ group with names := closed.names }.add ⟨part.node, height, true⟩) rest
            | _ => none
          let named (text : List Char) :=
            match readName? text with
            | some (name, rest) =>
                if group.names.contains name then none else body flags (name :: group.names) rest
            | none => none
          match skipBlanks flags rest with
          | '?' :: '=' :: _ | '?' :: '!' :: _ => none
          | '?' :: '<' :: '=' :: _ | '?' :: '<' :: '!' :: _ => none
          | '?' :: 'P' :: '<' :: rest => named rest
          | '?' :: '<' :: rest => named rest
          | '?' :: rest =>
              match readFlags? false [] flags rest with
              | some (_, inner, ':' :: rest) => body inner group.names rest
              | some (true, inner, ')' :: rest) =>
                  readGroup? fuel inner (group.add ⟨.empty, 0, false⟩) rest
              | _ => none
          | rest => body flags group.names rest
      | c :: rest => readGroup? fuel flags (group.addLeaf (literalNode flags c.toNat)) rest

/-- The pattern that a text denotes. -/
def Node.ofText? (text : String) : Option Node :=
  let chars := text.toList
  match readGroup? (2 * chars.length + 2) {} ⟨[], [], []⟩ chars with
  | some (group, []) =>
      let part := group.finish
      if maxHeight < part.height then none else some part.node
  | _ => none

end SchemaGuard.Pattern
