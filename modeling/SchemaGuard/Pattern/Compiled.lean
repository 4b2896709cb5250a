import SchemaGuard.Pattern.Reader
import SchemaGuard.Pattern.Search

/-! # Compiled patterns

A compiled pattern keeps the text that it was read from. Compilation refuses text that is
no pattern, and patterns whose counted repetitions would unfold beyond a fixed size.
-/

namespace SchemaGuard.Pattern

/-- Why a text is refused as a pattern. -/
inductive Refusal where
  | syntaxError
  | tooLarge
deriving DecidableEq, Repr

/-- The number of bytes that an unfolded pattern may take. -/
def sizeLimit : Nat := 10485760

/-- The text of a refusal in messages. -/
def Refusal.message : Refusal → String
  | syntaxError => "regex parse error:"
  | tooLarge => "Compiled regex exceeds size limit of " ++ toString sizeLimit ++ " bytes."

/-- The number of ranges that a named class has, about. -/
def NamedSet.rangeCount : NamedSet → Nat
  | .digit => 70
  | .blank => 10
  | .category general => general.ranges.length
  | _ => 770

/-- The number of ranges that a set has, about. -/
def CharSet.rangeCount : CharSet → Nat
  | range _ _ => 1
  | ranges rs => rs.length
  | named set => set.rangeCount
  | union l r | inter l r | diff l r | symm l r => l.rangeCount + r.rangeCount
  | complement s => s.rangeCount + 1
  | folded s => s.rangeCount

/-- The size of a pattern in bytes once its repetitions are unfolded. -/
def Node.size : Node → Nat
  | empty => 0
  | set s => 32 + 26 * (s.rangeCount - 1)
  | look _ => 32
  | seq first second => first.size + second.size
  | alt first second => first.size + second.size + 40
  | repeated body least none => (least + 1) * body.size + 40
  | repeated body least (some most) => least * body.size + (most - least) * (body.size + 40)

/-- A pattern with the text that it was read from. -/
structure Compiled where
  source : String
  node : Node

/-- Compiles a pattern. -/
def compile (source : String) : Except Refusal Compiled :=
  match Node.ofText? source with
  | none => .error .syntaxError
  | some node => if sizeLimit < node.size then .error .tooLarge else .ok ⟨source, node⟩

/-- Whether a pattern occurs in a text. -/
def Compiled.occursIn (pattern : Compiled) (text : String) : Bool :=
  pattern.node.occursIn text

end SchemaGuard.Pattern
