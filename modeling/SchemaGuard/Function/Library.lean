import SchemaGuard.Function.Collections
import SchemaGuard.Function.Numbers
import SchemaGuard.Function.Texts

/-! # The function library

The registries that hold the built-in functions, open for further registrations or not.
-/

namespace SchemaGuard.Registry

/-- The registry of the built-in functions. -/
def builtin : Registry :=
  let functions := Function.collections ++ Function.numbers ++ Function.texts
  ⟨Table.ofPairs (functions.map (fun function => (function.name, function))), false⟩

/-- The registry that holds the built-in functions for good. -/
def restricted : Registry :=
  builtin.lock

end SchemaGuard.Registry
