import SchemaGuard.Engine
import SchemaGuard.Failure
import SchemaGuard.Text.Search
import SchemaGuard.Yaml.Meaning

/-! # Settings

Where documents are searched for, whether capabilities are refused, and how much work a
validator may do. Settings come from variables, or from text in which references to
variables are replaced first. A reference is replaced once: what takes its place is not
searched for references again.
-/

namespace SchemaGuard

/-- The settings of a catalog of documents. -/
structure Settings where
  schemaPath : Option String := none
  disableDiscovery : Bool := false
  allowUnsafe : Bool := false
  limits : Limits := {}

/-- The variables that settings are taken from. -/
abbrev Variables := String → Option String

namespace Variables

/-- A reference after its opening: the name, a default if there is one, and the rest. Neither the
name nor the default holds a closing brace, and the name is not empty and holds no colon. -/
def reference? (text : List Char) : Option (String × Option String × List Char) :=
  let name := text.takeWhile (fun c => c != ':' && c != '\x7d')
  if name.isEmpty then none
  else match text.drop name.length with
    | '\x7d' :: rest => some (String.ofList name, none, rest)
    | ':' :: rest =>
        let rest := match rest with
          | '-' :: rest => rest
          | rest => rest
        let default := rest.takeWhile (· != '\x7d')
        match rest.drop default.length with
        | _ :: rest => some (String.ofList name, some (String.ofList default), rest)
        | [] => none
    | _ => none

/-- Replaces the references in a text. The first argument bounds the number of steps. -/
def substituteFrom (lookup : Variables) : Nat → List Char → List Char
  | 0, text => text
  | _, [] => []
  | fuel + 1, '$' :: '\x7b' :: rest =>
      match reference? rest with
      | some (name, default, rest) =>
          ((lookup name).getD (default.getD "")).toList ++ substituteFrom lookup fuel rest
      | none => '$' :: substituteFrom lookup fuel ('\x7b' :: rest)
  | fuel + 1, c :: rest => c :: substituteFrom lookup fuel rest

/-- A text with the references to variables replaced by their values or their defaults. -/
def substitute (lookup : Variables) (text : String) : String :=
  String.ofList (substituteFrom lookup text.length text.toList)

/-- Whether the value of a variable turns a flag on; every value does but a few that deny it. -/
def turnsOn (value : String) : Bool :=
  let word := String.ofList ((Text.trim value.toList).map Char.toLower)
  !(["", "0", "false", "no", "off"].contains word)

end Variables

namespace Settings

/-- The settings that variables give. All their names begin with the same word. -/
def ofVariables (word : String) (lookup : Variables) : Settings :=
  { schemaPath := (lookup (word ++ "__SCHEMA_PATH")).filter (fun path => !path.isEmpty)
    disableDiscovery := (lookup (word ++ "__DISABLE_SCHEMA_DISCOVERY")).any Variables.turnsOn
    allowUnsafe := (lookup (word ++ "__ALLOW_UNSAFE_CAPABILITIES")).any Variables.turnsOn }

/-- The limits in decoded settings. -/
def limitsOf? (datum : Datum) : Option Limits := do
  let record ← datum.record? false ["max_iterations", "max_call_depth", "max_source_length"]
  let default : Limits := {}
  let maxIterations ←
    Datum.defaulted? record "max_iterations" default.maxIterations Datum.size?
  let maxCallDepth ← Datum.defaulted? record "max_call_depth" default.maxCallDepth Datum.size?
  let maxSourceLength ←
    Datum.defaulted? record "max_source_length" default.maxSourceLength Datum.size?
  pure { maxIterations, maxCallDepth, maxSourceLength }

/-- The names in decoded settings. -/
def fieldNames : List String :=
  ["schema_path", "disable_discovery", "allow_unsafe_capabilities", "evaluator"]

/-- Decoded settings. -/
def ofDatum? (datum : Datum) : Option Settings := do
  let record ← datum.record? false fieldNames
  let schemaPath ← Datum.defaulted? record "schema_path" none (Datum.optional? Datum.text?)
  let disableDiscovery ← Datum.defaulted? record "disable_discovery" false Datum.flag?
  let allowUnsafe ← Datum.defaulted? record "allow_unsafe_capabilities" false Datum.flag?
  let limits ← Datum.defaulted? record "evaluator" {} limitsOf?
  pure { schemaPath, disableDiscovery, allowUnsafe, limits }

/-- The settings that a text holds once its references are replaced. -/
def ofText (lookup : Variables) (text : String) : Except Failure Settings :=
  match (Yaml.datum? (lookup.substitute text)).bind ofDatum? with
  | some settings => .ok settings
  | none => .error (.settings "Failed to parse YAML config")

/-- Refuses settings under which nothing can be evaluated. -/
def check (settings : Settings) : Except Failure Unit :=
  let limits := settings.limits
  if limits.maxIterations = 0 ∨ limits.maxCallDepth = 0 ∨ limits.maxSourceLength = 0 then
    .error (.settings "evaluator limits must be greater than zero")
  else
    .ok ()

/-- The evaluator of validators under some settings. -/
def evaluator (settings : Settings) : Evaluator :=
  .withBuiltins settings.limits ⟨!settings.allowUnsafe⟩

end Settings

end SchemaGuard
