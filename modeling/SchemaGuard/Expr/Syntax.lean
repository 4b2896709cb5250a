import SchemaGuard.Number.Numeral

/-! # Expressions and statements

The language of validators: expressions without effects, and statements that bind names,
choose, repeat and fail. A program is a list of statements.
-/

namespace SchemaGuard

/-- Arithmetic operators. -/
inductive BinaryOp where
  | add
  | subtract
  | multiply
  | divide
  | floorDivide
  | modulo
deriving DecidableEq, Repr

/-- Comparison operators, which chain. -/
inductive CompareOp where
  | equal
  | notEqual
  | less
  | greater
  | lessOrEqual
  | greaterOrEqual
  | isIn
  | notIn
  | isSame
  | isNotSame
deriving DecidableEq, Repr

/-- The sign of an arithmetic operator. -/
def BinaryOp.symbol : BinaryOp → String
  | add => "+"
  | subtract => "-"
  | multiply => "*"
  | divide => "/"
  | floorDivide => "//"
  | modulo => "%"

/-- The verb for an arithmetic operator in messages. -/
def BinaryOp.verb : BinaryOp → String
  | add => "add"
  | subtract => "subtract"
  | multiply => "multiply"
  | divide => "divide"
  | floorDivide => "floor-divide"
  | modulo => "take the modulo of"

/-- The sign of a comparison operator. -/
def CompareOp.symbol : CompareOp → String
  | equal => "=="
  | notEqual => "!="
  | less => "<"
  | greater => ">"
  | lessOrEqual => "<="
  | greaterOrEqual => ">="
  | isIn => "in"
  | notIn => "not in"
  | isSame => "is"
  | isNotSame => "is not"

/-- Expressions. A call whose callee is a name calls a function, and one whose callee is an
attribute calls a function with the object as its first argument. -/
inductive Expr where
  | null
  | bool (b : Bool)
  | int (n : Int)
  | float (x : Extended)
  | str (s : String)
  | list (items : List Expr)
  | var (name : String)
  | path (parts : List String)
  | binary (op : BinaryOp) (left right : Expr)
  | compare (first : Expr) (links : List (CompareOp × Expr))
  | negate (operand : Expr)
  | and (left right : Expr)
  | or (left right : Expr)
  | not (operand : Expr)
  | attr (object : Expr) (name : String)
  | index (object position : Expr)
  | call (callee : Expr) (args : List Expr)
  | cond (condition whenTrue whenFalse : Expr)
deriving Inhabited

/-- Statements. -/
inductive Statement where
  | expr (e : Expr)
  | assign (target : String) (value : Expr)
  | branch (branches : List (Expr × List Statement)) (otherwise : List Statement)
  | loop (name : String) (iterable : Expr) (body : List Statement)
  | raise (kind : String) (message : Option Expr)
  | assert (condition : Expr) (message : Option Expr)
  | importModule (path : List String)
  | pass
deriving Inhabited

/-- A program runs its statements in order. -/
abbrev Program := List Statement

/-- Whether a program does nothing. -/
def Program.isTrivial (program : Program) : Bool :=
  program.all (fun statement => match statement with | .pass => true | _ => false)

mutual

/-- The height of the tree of an expression. -/
def Expr.depth : Expr → Nat
  | .null | .bool _ | .int _ | .float _ | .str _ | .var _ | .path _ => 1
  | .list items => 1 + Expr.depthOfList items
  | .negate e | .not e | .attr e _ => 1 + e.depth
  | .binary _ l r | .and l r | .or l r | .index l r => 1 + max l.depth r.depth
  | .compare first links => 1 + max first.depth (Expr.depthOfLinks links)
  | .call callee args => 1 + max callee.depth (Expr.depthOfList args)
  | .cond c t e => 1 + max c.depth (max t.depth e.depth)

/-- The greatest height of a list of expressions. -/
def Expr.depthOfList : List Expr → Nat
  | [] => 0
  | e :: rest => max e.depth (Expr.depthOfList rest)

/-- The greatest height of the operands of a comparison after the first. -/
def Expr.depthOfLinks : List (CompareOp × Expr) → Nat
  | [] => 0
  | (_, e) :: rest => max e.depth (Expr.depthOfLinks rest)

end

end SchemaGuard
