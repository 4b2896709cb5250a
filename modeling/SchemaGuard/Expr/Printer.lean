import SchemaGuard.Expr.Syntax
import SchemaGuard.Number.Shortest
import SchemaGuard.Text.Quoted

/-! # Printed expressions

An expression is printed with parentheses around every operation between two operands,
so that its structure can be read back from the text.
-/

namespace SchemaGuard

/-- The text of what a real numeral denotes. -/
def Extended.literalText : Extended → String
  | .finite x => x.literalText
  | .infinite negative => if negative then "-inf" else "inf"
  | .undefinedValue => "NaN"

mutual

/-- The printed form of an expression. -/
def Expr.print : Expr → String
  | .null => "None"
  | .bool true => "True"
  | .bool false => "False"
  | .int n => toString n
  | .float x => x.literalText
  | .str s => Text.Quoted.quoteString s
  | .list items => "[" ++ String.intercalate ", " (Expr.printList items) ++ "]"
  | .var name => name
  | .path parts => "\x7b" ++ String.intercalate "." parts ++ "\x7d"
  | .binary op l r => "(" ++ l.print ++ " " ++ op.symbol ++ " " ++ r.print ++ ")"
  | .compare first links => "(" ++ first.print ++ Expr.printLinks links ++ ")"
  | .negate e => "-" ++ e.print
  | .and l r => "(" ++ l.print ++ " and " ++ r.print ++ ")"
  | .or l r => "(" ++ l.print ++ " or " ++ r.print ++ ")"
  | .not e => "not " ++ e.print
  | .attr object name => object.print ++ "." ++ name
  | .index object position => object.print ++ "[" ++ position.print ++ "]"
  | .call callee args => callee.print ++ "(" ++ String.intercalate ", " (Expr.printList args) ++ ")"
  | .cond c t e => "(" ++ t.print ++ " if " ++ c.print ++ " else " ++ e.print ++ ")"

/-- The printed forms of a list of expressions. -/
def Expr.printList : List Expr → List String
  | [] => []
  | e :: rest => e.print :: Expr.printList rest

/-- The operators and operands of a comparison after its first operand. -/
def Expr.printLinks : List (CompareOp × Expr) → String
  | [] => ""
  | (op, e) :: rest => " " ++ op.symbol ++ " " ++ e.print ++ Expr.printLinks rest

end

end SchemaGuard
