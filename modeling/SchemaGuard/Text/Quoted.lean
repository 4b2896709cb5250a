import SchemaGuard.Unicode.Character

/-! # Quoted text

Text between double quotes as messages and printed expressions show it. Line ends, tabs,
backslashes and double quotes have short escapes; a character that would not be visible,
or that would attach to its neighbour, is written by its code point.
-/

namespace SchemaGuard.Text.Quoted

/-- The lower case hexadecimal digits of a number. -/
def hexDigits (n : Nat) : List Char :=
  Nat.toDigits 16 n

/-- A character as it stands between double quotes. -/
def escape (c : Char) : List Char :=
  match c with
  | '\x00' => ['\\', '0']
  | '\t' => ['\\', 't']
  | '\r' => ['\\', 'r']
  | '\n' => ['\\', 'n']
  | '\\' => ['\\', '\\']
  | '"' => ['\\', '"']
  | c =>
      if Unicode.isPrintable c && !Unicode.isExtender c then [c]
      else ['\\', 'u', '\x7b'] ++ hexDigits c.toNat ++ ['\x7d']

/-- Text between double quotes. -/
def quote (text : List Char) : List Char :=
  '"' :: text.flatMap escape ++ ['"']

/-- A string between double quotes. -/
def quoteString (text : String) : String :=
  String.ofList (quote text.toList)

end SchemaGuard.Text.Quoted
