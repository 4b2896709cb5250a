import SchemaGuard.Function.Arguments
import SchemaGuard.Pattern.Compiled
import SchemaGuard.Text.Search
import SchemaGuard.Unicode.Case

/-! # Functions on text

Case, classes of characters, parts of texts, splitting and joining, and the search for a
pattern.
-/

namespace SchemaGuard.Function

/-- A function that changes a text. -/
def transform (name : String) (change : List Char → List Char) : List Value → Result
  | [value] => (textOf name value).map (fun text => ofText (change text))
  | args => miscounted name args

/-- A function that asks whether a text is not empty and all its characters are of a class. -/
def everyChar (name : String) (p : Char → Bool) : List Value → Result
  | [value] => (textOf name value).map (fun text => .bool (!text.isEmpty && text.all p))
  | args => miscounted name args

/-- A function that asks whether two texts are related. -/
def related (name : String) (holds : List Char → List Char → Bool) : List Value → Result
  | [value, other] => do
      let text ← textOf name value
      let other ← textOf name other
      pure (.bool (holds text other))
  | args => miscounted name args

/-- Whether a pattern occurs in a text. -/
def hasMatch : List Value → Result
  | [.str text, .str pattern] =>
      match Pattern.compile pattern with
      | .ok pattern => .ok (.bool (pattern.occursIn text))
      | .error refusal => .error (.badArgument "matches" refusal.message)
  | [.str _, _] => .error (.badArgument "matches" "second argument must be a string pattern")
  | [_, _] => .error (.badArgument "matches" "first argument must be a string")
  | args => miscounted "matches" args

/-- Every occurrence of a part replaced. -/
def replace : List Value → Result
  | [value, old, new] => do
      let text ← textOf "replace" value
      let old ← textOf "replace" old
      let new ← textOf "replace" new
      pure (ofText (Text.replace old new text))
  | args => miscounted "replace" args

/-- The words of a text. -/
def splitWords (value : Value) : Result :=
  (textOf "split" value).map (fun text => .list ((Text.words text).map ofText))

/-- The pieces of a text around a separator, or its words. -/
def split : List Value → Result
  | [value] => splitWords value
  | [value, .null] => splitWords value
  | [value, separator] => do
      let text ← textOf "split" value
      let separator ← textOf "split" separator
      if separator.isEmpty then .error (.badArgument "split" "empty separator")
      else pure (.list ((Text.splitOn separator text).map ofText))
  | args => miscounted "split" args

/-- Texts joined by a separator. -/
def joinWith (separator : Value) (items : List Value) : Result := do
  let separator ← textOf "join" separator
  let parts ← items.mapM (textOf "join")
  pure (ofText (Text.join separator parts))

/-- Texts joined by a separator, which may come before or after them. -/
def join : List Value → Result
  | [.list items] => joinWith (.str "") items
  | [.list items, separator] => joinWith separator items
  | [.str separator, .list items] => joinWith (.str separator) items
  | [_] | [_, _] => .error (.badArgument "join" "expected a list of strings and a separator")
  | args => miscounted "join" args

/-- The functions on text. -/
def texts : List Function := [
  ⟨"matches", .exactly 2, hasMatch⟩,
  ⟨"upper", .range 1 (some 1), transform "upper" Unicode.upperText⟩,
  ⟨"lower", .range 1 (some 1), transform "lower" Unicode.lowerText⟩,
  ⟨"strip", .range 1 (some 1), transform "strip" Text.trim⟩,
  ⟨"isdigit", .range 1 (some 1), everyChar "isdigit" Char.isDigit⟩,
  ⟨"isalpha", .range 1 (some 1), everyChar "isalpha" Unicode.isAlphabetic⟩,
  ⟨"isalnum", .range 1 (some 1), everyChar "isalnum" Unicode.isAlphanumeric⟩,
  ⟨"startswith", .range 2 (some 2),
    related "startswith" (fun text part => part.isPrefixOf text)⟩,
  ⟨"endswith", .range 2 (some 2), related "endswith" (fun text part => part.isSuffixOf text)⟩,
  ⟨"replace", .range 3 (some 3), replace⟩,
  ⟨"split", .range 1 (some 2), split⟩,
  ⟨"join", .range 1 (some 2), join⟩]

end SchemaGuard.Function
