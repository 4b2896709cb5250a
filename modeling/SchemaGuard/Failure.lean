import SchemaGuard.Report

/-! # Failures

Why a document, a setting or a file cannot be used. What is wrong with input data is not a
failure but a matter of reports; the one exception is the construction of an instance from
data that is not valid.
-/

namespace SchemaGuard

/-- Why the search for documents fails. -/
inductive DiscoveryCause where
  | notFound
  | notADirectory
  | permissionDenied
  | notConfigured
  | other
deriving DecidableEq, Repr

/-- The wording of a cause. -/
def DiscoveryCause.message : DiscoveryCause → String
  | notFound => "Schema path does not exist"
  | notADirectory => "Schema path is not a directory"
  | permissionDenied => "Permission denied while reading the schema path"
  | notConfigured => "No schema path configured"
  | other => "Error while discovering schemas"

/-- Why a file cannot be read. -/
inductive FileFault where
  | notFound
  | isDirectory
  | notADirectory
deriving DecidableEq, Repr

/-- The wording of a fault. -/
def FileFault.message : FileFault → String
  | notFound => "No such file or directory (os error 2)"
  | isDirectory => "Is a directory (os error 21)"
  | notADirectory => "Not a directory (os error 20)"

/-- Why something cannot be used. -/
inductive Failure where
  | schema (name message : String)
  | fieldType (name : String)
  | forbidden (capability validator : String)
  | discovery (cause : DiscoveryCause) (path : Option String)
  | unknownSchema (name : String)
  | construction (model : String) (errors : List FieldError)
  | settings (message : String)
  | document (file : Option String) (message : String)
  | unreadable (fault : FileFault)
deriving DecidableEq, Repr

namespace Failure

/-- The wording of a failure. A table or object type is answered with a hint. -/
def message : Failure → String
  | schema name message => "Failed to load schema '" ++ name ++ "': " ++ message
  | fieldType name =>
      if name = "dict" ∨ name = "object" then
        "Instead of using " ++ name ++ ", declare the \"properties\" key"
      else
        "Invalid field type: " ++ name
  | forbidden capability validator =>
      "Forbidden module use in validator '" ++ validator ++ "': " ++ capability
  | discovery cause path => cause.message ++ ": " ++ path.getD "<unset>"
  | unknownSchema name => "Schema " ++ name ++ " not found"
  | construction model errors =>
      "Cannot construct '" ++ model ++ "': " ++ toString errors.length ++ " validation error(s)"
  | settings message => "Configuration error: " ++ message
  | document file message =>
      "Failed to parse schema document: " ++ (file.map (· ++ ": ")).getD "" ++ message
  | unreadable fault => "IO error: " ++ fault.message

/-- Whether the failure is a refused capability. -/
def isForbidden : Failure → Bool
  | forbidden _ _ => true
  | _ => false

end Failure

end SchemaGuard
