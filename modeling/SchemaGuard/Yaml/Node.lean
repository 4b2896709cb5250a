import SchemaGuard.Table
import SchemaGuard.Yaml.Lexer

/-! # Node trees

The one document that a text holds, as a tree of nodes. A node may be named by an anchor,
and an alias stands for the node with its name. A name is given a number when its anchor is
met, and the number decides which node an alias stands for.
-/

namespace SchemaGuard.Yaml

/-- A node of a document. Tags are written out. -/
inductive Node where
  | scalar (text : String) (style : Style) (tag : Option String)
  | sequence (items : List Node) (tag : Option String)
  | mapping (entries : List (Node × Node)) (tag : Option String)
  | alias (number : Nat)

/-- The node that stands for something left out. -/
def Node.empty : Node := .scalar "" .plain none

mutual

/-- The number of marks that it takes to write a node: one for a scalar or an alias, and two
around the items of anything else. -/
def Node.weight : Node → Nat
  | .scalar _ _ _ | .alias _ => 1
  | .sequence items _ => 2 + weightOfItems items
  | .mapping entries _ => 2 + weightOfEntries entries

/-- The weight of the items of a sequence. -/
def weightOfItems : List Node → Nat
  | [] => 0
  | item :: rest => item.weight + weightOfItems rest

/-- The weight of the entries of a mapping. -/
def weightOfEntries : List (Node × Node) → Nat
  | [] => 0
  | (key, value) :: rest => key.weight + value.weight + weightOfEntries rest

end

/-- What is known while nodes are read: the tokens to come, the meaning of tag handles, the
numbers of the anchors by name, and the nodes by number. -/
structure NodeState where
  tokens : List Token
  handles : Table String := []
  names : Table Nat := []
  nodes : List (Nat × Node) := []

/-- A step of reading nodes, which fails on malformed input. -/
abbrev NodeReader := StateT NodeState Option

namespace NodeReader

/-- The next token. -/
def peek : NodeReader (Option Token) := do
  return (← get).tokens.head?

/-- Passes over the next token. -/
def skip : NodeReader Unit :=
  modify (fun state => { state with tokens := state.tokens.drop 1 })

/-- Whether the next token is one of a list. -/
def isNext (tokens : List Token) : NodeReader Bool := do
  return ((← peek).any tokens.contains)

/-- Takes the next token, which must be a given one. -/
def expect (token : Token) : NodeReader Unit := do
  if ← isNext [token] then skip else failure

/-- The handles that need no directive. -/
def standardHandles : Table String := [("!", "!"), ("!!", "tag:yaml.org,2002:")]

/-- A tag written out. -/
def writtenTag (handle suffix : String) : NodeReader String := do
  if handle.isEmpty then return suffix
  match Table.get? ((← get).handles ++ standardHandles) handle with
  | some meaning => return meaning ++ suffix
  | none => failure

/-- The anchor that comes next, if one does. -/
def anchor? : NodeReader (Option String) := do
  match ← peek with
  | some (.anchor name) => skip; return some name
  | _ => return none

/-- The tag that comes next, if one does. -/
def tag? : NodeReader (Option String) := do
  match ← peek with
  | some (.tag handle suffix) => skip; return some (← writtenTag handle suffix)
  | _ => return none

/-- An anchor and a tag in either order. -/
def properties : NodeReader (Option String × Option String) := do
  match ← anchor? with
  | some name => return (some name, ← tag?)
  | none =>
      let tag ← tag?
      if tag.isSome then return (← anchor?, tag) else return (none, none)

/-- Gives the name of an anchor its number. -/
def register (anchor : Option String) : NodeReader (Option Nat) := do
  match anchor with
  | none => return none
  | some name =>
      let number := (← get).names.length
      modify (fun state => { state with names := state.names.insert name number })
      return some number

/-- Notes which node has a number. -/
def note (number : Option Nat) (node : Node) : NodeReader Node := do
  match number with
  | none => return node
  | some number =>
      modify (fun state => { state with nodes := (number, node) :: state.nodes })
      return node

/-- The node of an alias. -/
def aliasOf (name : String) : NodeReader Node := do
  match Table.get? (← get).names name with
  | some number => return .alias number
  | none => failure

/-- A scalar with its properties. The tag `!` says that a scalar is what it looks like. -/
def scalarOf (text : String) (style : Style) (tag : Option String) : Node :=
  .scalar text style (if tag = some "!" then none else tag)

mutual

/-- A node. Blocks are read only where they may stand, and so are the entries of a sequence that
is not indented. The first argument bounds the number of steps. -/
def node : Nat → Bool → Bool → NodeReader Node
  | 0, _, _ => failure
  | fuel + 1, block, flush => do
      if let some (.alias name) ← peek then
        skip
        return ← aliasOf name
      let (anchor, tag) ← properties
      let number ← register anchor
      match ← peek with
      | some .blockEntry =>
          if flush then note number (.sequence (← flushItems fuel) tag)
          else bare anchor number tag
      | some (.scalar text style) => skip; note number (scalarOf text style tag)
      | some .flowSequence => skip; note number (.sequence (← flowItems fuel true) tag)
      | some .flowMapping => skip; note number (.mapping (← flowEntries fuel true) tag)
      | some .blockSequence =>
          if block then skip; note number (.sequence (← blockItems fuel) tag)
          else bare anchor number tag
      | some .blockMapping =>
          if block then skip; note number (.mapping (← blockEntries fuel) tag)
          else bare anchor number tag
      | _ => bare anchor number tag

/-- A node that has properties and nothing else. -/
def bare (anchor : Option String) (number : Option Nat) (tag : Option String) :
    NodeReader Node :=
  if anchor.isSome ∨ tag.isSome then note number (scalarOf "" .plain tag) else failure

/-- A node, or nothing in front of certain tokens. -/
def nodeUnless : Nat → List Token → Bool → Bool → NodeReader Node
  | 0, _, _, _ => failure
  | fuel + 1, stops, block, flush => do
      if ← isNext stops then return .empty else node fuel block flush

/-- The entries of a block sequence. -/
def blockItems : Nat → NodeReader (List Node)
  | 0 => failure
  | fuel + 1 => do
      if ← isNext [.blockEnd] then
        skip
        return []
      expect .blockEntry
      let item ← nodeUnless fuel [.blockEntry, .blockEnd] true false
      return item :: (← blockItems fuel)

/-- The entries of a sequence that is not indented. -/
def flushItems : Nat → NodeReader (List Node)
  | 0 => failure
  | fuel + 1 => do
      if ← isNext [.blockEntry] then
        skip
        let item ← nodeUnless fuel [.blockEntry, .key, .value, .blockEnd] true false
        return item :: (← flushItems fuel)
      else return []

/-- The entries of a block mapping. -/
def blockEntries : Nat → NodeReader (List (Node × Node))
  | 0 => failure
  | fuel + 1 => do
      if ← isNext [.blockEnd] then
        skip
        return []
      expect .key
      let key ← nodeUnless fuel [.key, .value, .blockEnd] true true
      let value ← valueUnless fuel [.key, .value, .blockEnd] true
      return (key, value) :: (← blockEntries fuel)

/-- The value after a key, or nothing. -/
def valueUnless : Nat → List Token → Bool → NodeReader Node
  | 0, _, _ => failure
  | fuel + 1, stops, block => do
      if ← isNext [.value] then
        skip
        nodeUnless fuel stops block block
      else return .empty

/-- The entries of a sequence in brackets. -/
def flowItems : Nat → Bool → NodeReader (List Node)
  | 0, _ => failure
  | fuel + 1, isFirst => do
      if !isFirst ∧ !(← isNext [.flowSequenceEnd]) then expect .flowEntry
      if ← isNext [.flowSequenceEnd] then
        skip
        return []
      let item ← flowItem fuel
      return item :: (← flowItems fuel false)

/-- An entry of a sequence in brackets, which may be a single pair of key and value. -/
def flowItem : Nat → NodeReader Node
  | 0 => failure
  | fuel + 1 => do
      if ← isNext [.key] then
        skip
        let keyIsAbsent ← isNext [.value, .flowEntry, .flowSequenceEnd]
        let key ← nodeUnless fuel [.value, .flowEntry, .flowSequenceEnd] false false
        if keyIsAbsent then skip
        let value ← valueUnless fuel [.flowEntry, .flowSequenceEnd] false
        return .mapping [(key, value)] none
      else node fuel false false

/-- The entries of a mapping in braces. -/
def flowEntries : Nat → Bool → NodeReader (List (Node × Node))
  | 0, _ => failure
  | fuel + 1, isFirst => do
      if !isFirst ∧ !(← isNext [.flowMappingEnd]) then expect .flowEntry
      if ← isNext [.flowMappingEnd] then
        skip
        return []
      let entry ← flowEntry fuel
      return entry :: (← flowEntries fuel false)

/-- An entry of a mapping in braces, which may be a key alone. -/
def flowEntry : Nat → NodeReader (Node × Node)
  | 0 => failure
  | fuel + 1 => do
      if ← isNext [.key] then
        skip
        let key ← nodeUnless fuel [.value, .flowEntry, .flowMappingEnd] false false
        let value ← valueUnless fuel [.flowEntry, .flowMappingEnd] false
        return (key, value)
      else return (← node fuel false false, .empty)

end

/-- The directives in front of a document. At most one of them states the version, and no handle
is given two meanings. -/
def directives : List Token → Bool → Table String → Option (Table String × List Token)
  | .version isKnown :: rest, versioned, handles =>
      if versioned ∨ !isKnown then none else directives rest true handles
  | .tagHandle handle meaning :: rest, versioned, handles =>
      if handles.contains handle then none
      else directives rest versioned (handles.insert handle meaning)
  | .documentStart :: rest, _, handles => some (handles, rest)
  | _, _, _ => none

/-- Whether a token begins a document that is marked as one. -/
def opensDocument : Token → Bool
  | .version _ | .tagHandle _ _ | .documentStart => true
  | _ => false

/-- Whether a marked document has no content in front of a token. -/
def closesDocument : Option Token → Bool
  | none | some .documentEnd => true
  | some token => opensDocument token

/-- The number of steps that tokens can take. -/
def budget (tokens : List Token) : Nat :=
  4 * tokens.length + 8

end NodeReader

open NodeReader in
/-- Reads a document from its tokens. -/
def readDocument (tokens : List Token) : NodeReader Node := do
  if tokens.head?.any opensDocument then
    match directives tokens false [] with
    | none => failure
    | some (handles, rest) =>
        set { tokens := rest, handles : NodeState }
        if closesDocument rest.head? then return .empty
        else node (budget rest) true false
  else node (budget tokens) true false

/-- A document: its root, and the nodes that aliases stand for by number. -/
structure NodeTree where
  root : Node
  nodes : List (Nat × Node)

/-- The only document of a text; `some none` if the text has no document. -/
def nodeTree? (text : String) : Option (Option NodeTree) := do
  let tokens ← tokens? text
  if tokens.isEmpty then pure none
  else
    let (root, state) ← (readDocument tokens).run { tokens }
    if state.tokens.all (· == .documentEnd) then pure (some ⟨root, state.nodes⟩) else none

end SchemaGuard.Yaml
