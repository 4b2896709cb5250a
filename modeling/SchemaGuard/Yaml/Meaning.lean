import SchemaGuard.Datum
import SchemaGuard.Number.Numeral
import SchemaGuard.Yaml.Node

/-! # What nodes mean

A plain scalar means null, a truth value or a number if it is written like one, and text in
any other case; a tag can insist on one of these. Aliases are replaced by what they stand
for. Both the nesting of what is read and the number of aliases that are followed are
limited, so that no document stands for more than a fixed multiple of itself.
-/

namespace SchemaGuard.Yaml

/-- Whether a text is one of the spellings of null. -/
def isNull (text : String) : Bool :=
  ["null", "Null", "NULL", "~"].contains text

/-- The truth value that a text spells. -/
def flagOf? (text : String) : Option Bool :=
  if ["true", "True", "TRUE"].contains text then some true
  else if ["false", "False", "FALSE"].contains text then some false
  else none

/-- The value of a digit in a radix of at most 16. -/
def digitIn? (radix : Nat) (c : Char) : Option Nat :=
  (hexDigit? c).filter (· < radix)

/-- The value of digits in a radix. -/
def digitsIn? (radix : Nat) (text : List Char) : Option Nat :=
  if text.isEmpty then none
  else text.foldlM (fun total c => (digitIn? radix c).map (radix * total + ·)) 0

/-- Whether a text is a number with zeros before it, which is not read as a number. -/
def hasLeadingZeros (text : List Char) : Bool :=
  match (Numeral.splitSign text).2 with
  | '0' :: c :: rest => (c :: rest).all Char.isDigit
  | _ => false

/-- A natural number in decimal digits, or in another radix after the mark of that radix. -/
def naturalOf? : List Char → Option Nat
  | '0' :: 'x' :: digits => digitsIn? 16 digits
  | '0' :: 'o' :: digits => digitsIn? 8 digits
  | '0' :: 'b' :: digits => digitsIn? 2 digits
  | digits => digitsIn? 10 digits

/-- The integer that a text is. -/
def integerOf? (text : List Char) : Option Int :=
  if hasLeadingZeros text then none
  else match text with
    | '-' :: digits => (naturalOf? digits).map (fun n => -(n : Int))
    | '+' :: digits => (naturalOf? digits).map (fun n => (n : Int))
    | digits => (naturalOf? digits).map (fun n => (n : Int))

/-- A scalar that looks like an integer: one that a value can hold, or one that is refused, which
is any other of at most 128 bits. -/
inductive IntegerReading where
  | held (i : Int)
  | refused

/-- Whether an integer has at most 128 bits, with a sign or without. -/
def isWideInteger (i : Int) : Bool :=
  decide (-0x80000000000000000000000000000000 ≤ i) &&
    decide (i < 0x100000000000000000000000000000000)

/-- What a text is as an integer. Larger integers are read as floating point numbers. -/
def integerReading? (text : List Char) : Option IntegerReading :=
  match integerOf? text with
  | none => none
  | some i =>
      if -0x8000000000000000 ≤ i ∧ i < 0x10000000000000000 then some (.held i)
      else if isWideInteger i then some .refused
      else none

/-- The spellings of infinities and of the undefined number, which a value holds as null. -/
def isUnbounded (text : String) : Bool :=
  [".inf", ".Inf", ".INF", "+.inf", "+.Inf", "+.INF", "-.inf", "-.Inf", "-.INF", ".nan", ".NaN",
    ".NAN"].contains text

/-- The number that a text is; two signs are none. -/
def realOf? (text : List Char) : Option Binary64 :=
  match text with
  | '+' :: '+' :: _ | '+' :: '-' :: _ => none
  | text => (Numeral.real? text).bind Extended.finite?

/-- The value that a text is as a number with a fraction or an exponent. -/
def realValue? (text : String) : Option Value :=
  if isUnbounded text then some .null else (realOf? text.toList).map .float

/-- The value that a plain scalar means; `none` if it is an integer that no value holds. -/
def plainValue? (text : String) : Option Value :=
  if text.isEmpty ∨ isNull text then some .null
  else match flagOf? text with
    | some flag => some (.bool flag)
    | none =>
        match integerReading? text.toList with
        | some (.held i) => some (.int i)
        | some .refused => none
        | none =>
            if hasLeadingZeros text.toList then some (.str text)
            else some ((realValue? text).getD (.str text))

/-- The beginning of the tags that everyone knows. -/
def knownTag (name : String) : String := "tag:yaml.org,2002:" ++ name

/-- Whether a tag claims that something is of a kind of its own. -/
def isLocal (tag : Option String) : Bool :=
  tag.any (fun tag => tag.toList.head? == some '!')

/-- The value that a tagged scalar means. -/
def taggedValue? (tag text : String) : Option Value :=
  if tag = knownTag "bool" then (flagOf? text).map .bool
  else if tag = knownTag "int" then
    match integerReading? text.toList with
    | some (.held i) => some (.int i)
    | _ => none
  else if tag = knownTag "float" then realValue? text
  else if tag = knownTag "null" then (if isNull text then some .null else none)
  else if isLocal tag then none
  else some (.str text)

/-- Whether a scalar is read like a plain one where a kind is asked for. -/
def countsAsPlain (style : Style) (tag : Option String) (kind : String) : Bool :=
  style == .plain || (style == .literal && tag == some (knownTag kind))

/-- The readings of a scalar. -/
def readingOf (text : String) (style : Style) (tag : Option String) : Reading :=
  let isPlain := style == .plain
  { text? := some text
    value? := match tag with
      | some tag => taggedValue? tag text
      | none => if isPlain then plainValue? text else some (.str text)
    flag? := if countsAsPlain style tag "bool" then flagOf? text else none
    size? :=
      if countsAsPlain style tag "int" ∧ text.toList.head? ≠ some '-' then
        ((integerOf? text.toList).map Int.toNat).filter (· < 0x10000000000000000)
      else none
    isAbsent := isPlain &&
      (match tag with
        | some tag => tag = knownTag "null" && isNull text
        | none => text.isEmpty || isNull text)
    isEmptyTable := isPlain && text.isEmpty }

/-- The greatest depth to which nested nodes are read. -/
def depthLimit : Nat := 128

/-- How many aliases may be followed for each mark of a document. -/
def aliasFactor : Nat := 100

/-- Reading with a number of aliases that may still be followed. -/
abbrev Budgeted := StateM Nat

/-- The node that an alias stands for, if it may still be followed; any other node is itself. -/
def followed (nodes : List (Nat × Node)) : Node → Budgeted (Option Node)
  | .alias number => do
      let left ← get
      set (left - 1)
      return if left = 0 then none else nodes.lookup number
  | node => return some node

/-- What a node means. The first argument bounds the nesting; beyond it nothing is readable. -/
def datumFrom (nodes : List (Nat × Node)) : Nat → Node → Budgeted Datum
  | 0, node => do
      match ← followed nodes node with
      | some (.scalar text style tag) => return .scalar (readingOf text style tag)
      | _ => return .unreadable
  | depth + 1, node => do
      match ← followed nodes node with
      | some (.scalar text style tag) => return .scalar (readingOf text style tag)
      | some (.sequence items tag) =>
          return .sequence (← items.mapM (datumFrom nodes depth)) (isLocal tag)
      | some (.mapping entries tag) =>
          return .mapping (← entries.mapM (fun (key, value) => do
            let key ← datumFrom nodes depth key
            let value ← datumFrom nodes depth value
            return (key, value))) (isLocal tag)
      | _ => return .unreadable

/-- What a text without a document means. -/
def absentDocument : Datum :=
  .scalar { value? := some .null, isAbsent := true, isEmptyTable := true }

/-- What a document means. -/
def NodeTree.datum (tree : NodeTree) : Datum :=
  (datumFrom tree.nodes depthLimit tree.root (aliasFactor * tree.root.weight)).1

/-- What the only document of a text means; `none` if the text is malformed. -/
def datum? (text : String) : Option Datum :=
  (nodeTree? text).map (fun tree => (tree.map NodeTree.datum).getD absentDocument)

end SchemaGuard.Yaml
