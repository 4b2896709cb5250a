import SchemaGuard.Expr.Token

/-! # Parse errors

Why a source is refused before it runs, and the wording of each reason.
-/

namespace SchemaGuard

/-- Why a string literal is refused. -/
inductive StringFault where
  | unterminated
  | invalidEscape (c : Char)
deriving DecidableEq

/-- Why a source is refused. -/
inductive ParseError where
  | forbidden (capability : String)
  | unexpectedEof (line : Nat)
  | unexpectedToken (token : Token) (line : Nat)
  | unexpectedChar (c : Char) (line : Nat)
  | invalidNumber (text : String) (line : Nat)
  | invalidString (line : Nat) (fault : StringFault)
  | invalidVariable (name : String) (line : Nat)
  | missingDelimiter (delimiter : Char) (line : Nat)
  | inconsistentIndent (line : Nat)
  | unexpectedIndent (line : Nat)
  | invalidAssignment (line : Nat)
  | tooDeep (depth max : Nat)
  | tooLong (length max : Nat)
deriving DecidableEq

/-- The wording of a fault in a string literal. -/
def StringFault.message : StringFault → String
  | unterminated => "Unterminated string"
  | invalidEscape c => "Invalid escape sequence \\" ++ String.singleton c

namespace ParseError

/-- The wording of a parse error. -/
def message : ParseError → String
  | forbidden capability => "Forbidden capability '" ++ capability ++ "'"
  | unexpectedEof line => "Unexpected end of input on line " ++ toString line
  | unexpectedToken token line =>
      "Unexpected token '" ++ token.describe ++ "' on line " ++ toString line
  | unexpectedChar c line =>
      "Unexpected character '" ++ String.singleton c ++ "' on line " ++ toString line
  | invalidNumber text line => "Invalid number '" ++ text ++ "' on line " ++ toString line
  | invalidString line fault =>
      "Invalid string literal on line " ++ toString line ++ ": " ++ fault.message
  | invalidVariable name line =>
      "Invalid variable reference '" ++ name ++ "' on line " ++ toString line
  | missingDelimiter delimiter line =>
      "Missing closing '" ++ String.singleton delimiter ++ "' on line " ++ toString line
  | inconsistentIndent line => "Inconsistent indentation on line " ++ toString line
  | unexpectedIndent line => "Unexpected indent on line " ++ toString line
  | invalidAssignment line => "Cannot assign to expression on line " ++ toString line
  | tooDeep depth max =>
      "Expression nesting depth " ++ toString depth ++ " exceeds maximum of " ++ toString max
  | tooLong length max =>
      "Validator source length " ++ toString length ++ " exceeds maximum of " ++ toString max

/-- The capability that a screen found, if the error comes from one. -/
def capability? : ParseError → Option String
  | forbidden capability => some capability
  | _ => none

end ParseError

end SchemaGuard
