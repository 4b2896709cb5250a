import SchemaGuard.Document.Decode
import SchemaGuard.Files

/-! # Discovery of documents

Every document in a folder and in the folders below it is found, folder by folder in the
order of names. Names that begin with an underscore are passed over, with everything below
them, and so are files whose extension is not that of a document.
-/

namespace SchemaGuard

/-- A document and the path of the file that holds it. -/
structure Discovered where
  path : String
  document : Document

/-- Whether an entry of a folder is passed over. -/
def isPassedOver (name : String) : Bool :=
  name.toList.head? == some '_'

/-- Puts an entry in its place among entries in the order of names. -/
def insertByName {α : Type} (name : String) (entry : α) :
    List (String × α) → List (String × α)
  | [] => [(name, entry)]
  | (other, found) :: rest =>
      if name ≤ other then (name, entry) :: (other, found) :: rest
      else (other, found) :: insertByName name entry rest

/-- Entries in the order of names. -/
def sortByName {α : Type} (entries : List (String × α)) : List (String × α) :=
  entries.foldr (fun entry sorted => insertByName entry.1 entry.2 sorted) []

mutual

/-- The files below a tree by path, in the order of their discovery. -/
def FileTree.filesBelow (path : String) : FileTree → List (String × String)
  | .file text => [(path, text)]
  | .folder entries => (sortByName (filesOfEntries path entries)).flatMap Prod.snd
termination_by structural tree => tree

/-- For every entry of a folder its name and the files below it. -/
def filesOfEntries (path : String) :
    List (String × FileTree) → List (String × List (String × String))
  | [] => []
  | (name, tree) :: rest =>
      let files := if isPassedOver name then [] else tree.filesBelow (joinPath path name)
      (name, files) :: filesOfEntries path rest
termination_by structural entries => entries

end

namespace Files

/-- The document that a text from a file holds. -/
def documentOf (path text : String) : Except Failure Document :=
  match Document.ofText text with
  | .error (.document _ message) => .error (.document (some path) message)
  | outcome => outcome

/-- The document in the file at a path. -/
def readDocument (files : Files) (path : String) : Except Failure Document := do
  let text ← files.read path
  documentOf (files.pathOf path) text

/-- The documents in files, or the failure of the first file that holds none. -/
def documentsOf : List (String × String) → Except Failure (List Discovered)
  | [] => .ok []
  | (path, text) :: rest => do
      let document ← documentOf path text
      let others ← documentsOf rest
      pure (⟨path, document⟩ :: others)

/-- Why a folder cannot be searched. -/
def causeOf : FileFault → DiscoveryCause
  | .notFound => .notFound
  | .notADirectory => .notADirectory
  | .isDirectory => .other

/-- The documents in a folder and below it. -/
def discover (files : Files) (root : Option String) : Except Failure (List Discovered) :=
  match root with
  | none => .error (.discovery .notConfigured none)
  | some root =>
      let path := files.pathOf root
      match files.tree.find (pathNames root) with
      | .error fault => .error (.discovery (causeOf fault) (some path))
      | .ok (.file _) => .error (.discovery .notADirectory (some path))
      | .ok tree => documentsOf ((tree.filesBelow path).filter (fun file => holdsDocument file.1))

end Files

end SchemaGuard
