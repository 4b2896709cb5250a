import SchemaGuard.Expr.Printer

/-! # Tokens

The words and signs of the expression language, and the layout tokens into which line
ends and indentation are turned.
-/

namespace SchemaGuard

/-- Tokens of the expression language. -/
inductive Token where
  | null
  | bool (b : Bool)
  | int (n : Int)
  | float (x : Extended)
  | str (s : String)
  | identifier (name : String)
  | path (parts : List String)
  | plus
  | minus
  | star
  | slash
  | doubleSlash
  | percent
  | equal
  | notEqual
  | less
  | greater
  | lessEqual
  | greaterEqual
  | assign
  | and
  | or
  | not
  | isIn
  | isSame
  | ifWord
  | elifWord
  | elseWord
  | forWord
  | raiseWord
  | assertWord
  | passWord
  | importWord
  | leftParen
  | rightParen
  | leftBracket
  | rightBracket
  | comma
  | colon
  | semicolon
  | dot
  | newline
  | indent
  | dedent
  | eof
deriving DecidableEq

/-- A token with the line on which it ends. -/
structure Lexeme where
  token : Token
  line : Nat
deriving DecidableEq

namespace Token

/-- The token of a word. -/
def ofWord (word : String) : Token :=
  match word with
  | "None" | "null" => null
  | "True" | "true" => bool true
  | "False" | "false" => bool false
  | "and" => and
  | "or" => or
  | "not" => not
  | "in" => isIn
  | "is" => isSame
  | "if" => ifWord
  | "elif" => elifWord
  | "else" => elseWord
  | "for" => forWord
  | "raise" => raiseWord
  | "assert" => assertWord
  | "pass" => passWord
  | "import" => importWord
  | name => identifier name

/-- How a message shows a token. -/
def describe : Token → String
  | null => "Null"
  | bool b => "Boolean(" ++ (if b then "true" else "false") ++ ")"
  | int n => "Integer(" ++ toString n ++ ")"
  | float x => "Float(" ++ x.literalText ++ ")"
  | str s => "String(" ++ Text.Quoted.quoteString s ++ ")"
  | identifier name => "Identifier(" ++ Text.Quoted.quoteString name ++ ")"
  | path parts => "Path([" ++ String.intercalate ", " (parts.map Text.Quoted.quoteString) ++ "])"
  | plus => "Plus"
  | minus => "Minus"
  | star => "Star"
  | slash => "Slash"
  | doubleSlash => "DoubleSlash"
  | percent => "Percent"
  | equal => "Equal"
  | notEqual => "NotEqual"
  | less => "Less"
  | greater => "Greater"
  | lessEqual => "LessEqual"
  | greaterEqual => "GreaterEqual"
  | assign => "Assign"
  | and => "And"
  | or => "Or"
  | not => "Not"
  | isIn => "In"
  | isSame => "Is"
  | ifWord => "If"
  | elifWord => "Elif"
  | elseWord => "Else"
  | forWord => "For"
  | raiseWord => "Raise"
  | assertWord => "Assert"
  | passWord => "Pass"
  | importWord => "Import"
  | leftParen => "LeftParen"
  | rightParen => "RightParen"
  | leftBracket => "LeftBracket"
  | rightBracket => "RightBracket"
  | comma => "Comma"
  | colon => "Colon"
  | semicolon => "Semicolon"
  | dot => "Dot"
  | newline => "Newline"
  | indent => "Indent"
  | dedent => "Dedent"
  | eof => "Eof"

end Token

end SchemaGuard
