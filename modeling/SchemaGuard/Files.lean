import SchemaGuard.Failure
import SchemaGuard.Text.Search

/-! # Files

A tree of folders and text files at some place of a file system. Paths are relative to that
place and are written with slashes.
-/

namespace SchemaGuard

/-- A file with its text, or a folder with its entries by name. -/
inductive FileTree where
  | file (text : String)
  | folder (entries : List (String × FileTree))

/-- A tree of files and the path of the place where it stands. -/
structure Files where
  location : String
  tree : FileTree

namespace FileTree

/-- The folder without entries. -/
def empty : FileTree := folder []

/-- The entries of a folder. -/
def entries : FileTree → Table FileTree
  | file _ => []
  | folder entries => entries

/-- What stands at a path. -/
def find : FileTree → List String → Except FileFault FileTree
  | tree, [] => .ok tree
  | file _, _ :: _ => .error .notADirectory
  | folder entries, name :: rest =>
      match Table.get? entries name with
      | some tree => tree.find rest
      | none => .error .notFound

/-- Puts a tree at a path; folders on the way are made as needed. -/
def put (content : FileTree) : List String → FileTree → FileTree
  | [], _ => content
  | name :: rest, tree =>
      let inner := (Table.get? tree.entries name).getD empty
      folder (Table.insert tree.entries name (put content rest inner))

/-- Makes a folder at a path unless something is there already. -/
def makeFolder (tree : FileTree) (path : List String) : FileTree :=
  match tree.find path with
  | .ok _ => tree
  | .error _ => put empty path tree

/-- Takes away what stands at a path. -/
def remove : List String → FileTree → FileTree
  | [], _ => empty
  | _, file text => file text
  | [name], folder entries => folder (Table.erase entries name)
  | name :: next :: rest, folder entries =>
      match Table.get? entries name with
      | some inner => folder (Table.insert entries name (remove (next :: rest) inner))
      | none => folder entries

end FileTree

/-- The names on a path; empty ones and those that stand for the place itself do not count. -/
def pathNames (path : String) : List String :=
  let names := (Text.splitOn ['/'] path.toList).map String.ofList
  names.filter (fun name => name ≠ "" ∧ name ≠ ".")

/-- A path continued by a relative one. -/
def joinPath (base path : String) : String :=
  if base.toList.getLast? = some '/' then base ++ path else base ++ "/" ++ path

/-- The extension of a file name: what follows its last dot, unless the name begins there. -/
def extension? (name : String) : Option String :=
  match (Text.splitOn ['.'] name.toList).reverse with
  | [] | [_] => none
  | [_, []] => none
  | last :: _ => if name = ".." then none else some (String.ofList last)

/-- The extensions of files that hold documents. -/
def documentExtensions : List String := ["yaml", "yml", "json"]

/-- Whether a path is one of a file that may hold a document. -/
def holdsDocument (path : String) : Bool :=
  match (pathNames path).getLast?.bind extension? with
  | some extension => documentExtensions.contains (extension.map Char.toLower)
  | none => false

namespace Files

/-- The text of the file at a path. -/
def read (files : Files) (path : String) : Except Failure String :=
  match files.tree.find (pathNames path) with
  | .error fault => .error (.unreadable fault)
  | .ok (.folder _) => .error (.unreadable .isDirectory)
  | .ok (.file text) => .ok text

/-- The full path of a relative one. -/
def pathOf (files : Files) (path : String) : String :=
  joinPath files.location path

end Files

end SchemaGuard
