/-! # Tokens of documents

The tokens of a document in which the layout is made explicit: blocks open and close, and a
key is announced before its first token.
-/

namespace SchemaGuard.Yaml

/-- How a scalar is written; only a plain one can be anything but text. -/
inductive Style where
  | plain
  | quoted
  | literal
  | folded
deriving DecidableEq, Repr

/-- A token of a document. -/
inductive Token where
  | version (isKnown : Bool)
  | tagHandle (handle meaning : String)
  | documentStart
  | documentEnd
  | blockSequence
  | blockMapping
  | blockEnd
  | flowSequence
  | flowSequenceEnd
  | flowMapping
  | flowMappingEnd
  | blockEntry
  | flowEntry
  | key
  | value
  | alias (name : String)
  | anchor (name : String)
  | tag (handle suffix : String)
  | scalar (text : String) (style : Style)
deriving DecidableEq, Repr

end SchemaGuard.Yaml
