import SchemaGuard.Pattern.Syntax

/-! # Searching with a pattern

A pattern takes a set of positions of a text to the positions at which its matches that
begin there end. A set of positions is a number whose bit at a place tells whether the
position is a member. The pattern occurs in the text when some match begins anywhere.
-/

namespace SchemaGuard.Pattern

/-- The members of a list of truth values as bits, the first at place zero. -/
def bits (flags : List Bool) : Nat :=
  flags.foldr (fun flag rest => 2 * rest + flag.toNat) 0

/-- The positions before a character of a set. -/
def CharSet.positions (set : CharSet) (text : List Nat) : Nat :=
  bits (text.map set.has)

/-- Whether a condition holds at each position, given the character before the first. -/
def Anchor.flags (anchor : Anchor) : Option Nat → List Nat → List Bool
  | before, [] => [anchor.holds before none]
  | before, code :: rest => anchor.holds before (some code) :: anchor.flags (some code) rest

/-- The positions at which a condition holds. -/
def Anchor.positions (anchor : Anchor) (text : List Nat) : Nat :=
  bits (anchor.flags none text)

/-- Exactly `count` applications, cut short once the set no longer changes. -/
def iterate (f : Nat → Nat) : Nat → Nat → Nat
  | 0, positions => positions
  | count + 1, positions =>
      let next := f positions
      if next = positions then positions else iterate f count next

/-- At most `count` applications, cut short once the set no longer grows. -/
def grow (f : Nat → Nat) : Nat → Nat → Nat
  | 0, positions => positions
  | count + 1, positions =>
      let next := positions ||| f positions
      if next = positions then positions else grow f count next

/-- The positions at which matches end that begin at one of the given positions. -/
def Node.reach (text : List Nat) : Node → Nat → Nat
  | empty, positions => positions
  | set s, positions => (positions &&& s.positions text) <<< 1
  | look anchor, positions => positions &&& anchor.positions text
  | seq first second, positions => second.reach text (first.reach text positions)
  | alt first second, positions => first.reach text positions ||| second.reach text positions
  | repeated body least most, positions =>
      let required := iterate (body.reach text) least positions
      match most with
      | some most => grow (body.reach text) (most - least) required
      | none => grow (body.reach text) (text.length + 1) required

/-- Whether a pattern occurs in a text. -/
def Node.occursIn (node : Node) (text : String) : Bool :=
  let codes := text.toList.map Char.toNat
  node.reach codes (1 <<< (codes.length + 1) - 1) != 0

end SchemaGuard.Pattern
