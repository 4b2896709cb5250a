import SchemaGuard.Unicode.Case
import SchemaGuard.Unicode.Script

/-! # Patterns

The regular expressions with which fields and validators constrain text. A set of
characters is an expression of its own, built from ranges, named classes and Boolean
operations; a pattern is built from such sets and from conditions on a position.
-/

namespace SchemaGuard.Pattern

/-- Character classes with a name. -/
inductive NamedSet where
  | digit
  | word
  | blank
  | alphabetic
  | lowercase
  | uppercase
  | cased
  | caseIgnorable
  | assigned
  | category (category : Unicode.Category)

/-- Every general category. -/
def allCategories : List Unicode.Category :=
  Unicode.visibleCategories ++ [.spaceSeparator, .lineSeparator, .paragraphSeparator,
    .control, .format, .privateUse]

/-- Whether a code point belongs to a named class. -/
def NamedSet.has : NamedSet → Nat → Bool
  | .digit, code => Unicode.Category.decimalNumber.has code
  | .word, code => Unicode.isWord (Char.ofNat code)
  | .blank, code => Unicode.whiteSpaceRanges.has code
  | .alphabetic, code => Unicode.isAlphabeticCode code
  | .lowercase, code => Unicode.isLowercaseCode code
  | .uppercase, code => Unicode.isUppercaseCode code
  | .cased, code => Unicode.isCased (Char.ofNat code)
  | .caseIgnorable, code => Unicode.isCaseIgnorable (Char.ofNat code)
  | .assigned, code => allCategories.any (fun general => general.has code)
  | .category general, code => general.has code

/-- A set of code points. -/
inductive CharSet where
  | range (first last : Nat)
  | ranges (ranges : Unicode.Ranges)
  | named (set : NamedSet)
  | union (left right : CharSet)
  | inter (left right : CharSet)
  | diff (left right : CharSet)
  | symm (left right : CharSet)
  | complement (set : CharSet)
  | folded (set : CharSet)

namespace CharSet

/-- The set without members. -/
def empty : CharSet :=
  ranges []

/-- The set of one code point. -/
def single (code : Nat) : CharSet :=
  range code code

/-- Whether a code point is a member. A folded set holds every code point that differs only by
case from a member. -/
def has : CharSet → Nat → Bool
  | range first last, code => Nat.ble first code && Nat.ble code last
  | ranges rs, code => rs.has code
  | named set, code => set.has code
  | union l r, code => l.has code || r.has code
  | inter l r, code => l.has code && r.has code
  | diff l r, code => l.has code && !r.has code
  | symm l r, code => l.has code != r.has code
  | complement s, code => !s.has code
  | folded s, code => (Unicode.foldOrbit code).any (fun other => s.has other)

/-- The union of a list of sets. -/
def unions (sets : List CharSet) : CharSet :=
  sets.foldr union empty

/-- A set under a choice of whether case matters. -/
def withCase (insensitive : Bool) (set : CharSet) : CharSet :=
  if insensitive then folded set else set

/-- A set or its complement. -/
def negatedIf (negated : Bool) (set : CharSet) : CharSet :=
  if negated then complement set else set

end CharSet

/-- Conditions on a position between two characters. Those on words take the set of characters
that form words. -/
inductive Anchor where
  | textStart
  | textEnd
  | lineStart (returnsEndLines : Bool)
  | lineEnd (returnsEndLines : Bool)
  | boundary (word : CharSet)
  | noBoundary (word : CharSet)
  | wordStart (word : CharSet)
  | wordEnd (word : CharSet)
  | wordStartHalf (word : CharSet)
  | wordEndHalf (word : CharSet)

namespace Anchor

/-- Whether a condition holds between two neighbours, of which either may be missing. -/
def holds (anchor : Anchor) (before after : Option Nat) : Bool :=
  let inWord (word : CharSet) (side : Option Nat) : Bool := side.any word.has
  match anchor with
  | textStart => before.isNone
  | textEnd => after.isNone
  | lineStart false => before.isNone || before == some 10
  | lineEnd false => after.isNone || after == some 10
  | lineStart true =>
      before.isNone || before == some 10 || (before == some 13 && after != some 10)
  | lineEnd true =>
      after.isNone || after == some 13 || (after == some 10 && before != some 13)
  | boundary word => inWord word before != inWord word after
  | noBoundary word => inWord word before == inWord word after
  | wordStart word => !inWord word before && inWord word after
  | wordEnd word => inWord word before && !inWord word after
  | wordStartHalf word => !inWord word before
  | wordEndHalf word => !inWord word after

end Anchor

/-- The structure of a pattern. -/
inductive Node where
  | empty
  | set (set : CharSet)
  | look (anchor : Anchor)
  | seq (first second : Node)
  | alt (first second : Node)
  | repeated (body : Node) (least : Nat) (most : Option Nat)

end SchemaGuard.Pattern
