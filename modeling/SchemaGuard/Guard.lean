import SchemaGuard.Expr.Syntax
import SchemaGuard.Unicode.Character

/-! # The capability guard

A guard refuses a fixed list of names and all attributes that begin and end with two
underscores. It screens the text of a source, the structure of a program, and every name
that a running program resolves, binds, calls or imports. An open guard refuses nothing.
-/

namespace SchemaGuard

/-- Modules whose use is refused. -/
def deniedModules : List String :=
  ["os", "sys", "subprocess", "importlib", "pickle", "marshal", "shutil", "shlex", "inspect",
   "builtins", "ctypes", "socket", "pathlib", "io", "tempfile", "signal", "threading",
   "multiprocessing", "gc"]

/-- Functions for lookup and introspection that are refused. -/
def deniedCallables : List String :=
  ["eval", "exec", "compile", "__import__", "getattr", "setattr", "delattr", "globals", "locals",
   "vars", "open", "breakpoint", "dir"]

/-- Whether a name is on the list of refused names. -/
def isDenied (name : String) : Bool :=
  deniedModules.contains name || deniedCallables.contains name

/-- Whether a name begins and ends with two underscores around something. -/
def isDunder (name : String) : Bool :=
  decide (4 < name.utf8ByteSize) && ['_', '_'].isPrefixOf name.toList &&
    ['_', '_'].isSuffixOf name.toList

/-- A guard is active or lets everything pass. -/
structure Guard where
  enabled : Bool
deriving DecidableEq, Repr

/-- A capability that a guard refuses. -/
structure Forbidden where
  capability : String
deriving DecidableEq, Repr

namespace Guard

/-- The guard with the full list of refused names. -/
def restricted : Guard := ⟨true⟩

/-- The guard that lets everything pass. -/
def unrestricted : Guard := ⟨false⟩

/-- Whether the guard refuses a name. -/
def hides (guard : Guard) (name : String) : Bool :=
  guard.enabled && isDenied name

/-- Refuses a hidden name. -/
def checkName (guard : Guard) (name : String) : Except Forbidden Unit :=
  if guard.hides name then .error ⟨name⟩ else .ok ()

/-- Refuses an attribute with two underscores at either end. -/
def checkAttribute (guard : Guard) (name : String) : Except Forbidden Unit :=
  if guard.enabled && isDunder name then .error ⟨name⟩ else .ok ()

/-- Checks a list of attributes in order. -/
def checkAttributes (guard : Guard) : List String → Except Forbidden Unit
  | [] => .ok ()
  | name :: rest => do
      guard.checkAttribute name
      checkAttributes guard rest

/-- Checks the root of a path as a name and its other parts as attributes. -/
def checkPath (guard : Guard) : List String → Except Forbidden Unit
  | [] => .ok ()
  | root :: rest => do
      guard.checkName root
      guard.checkAttributes rest

/-- Checks the root of an imported module. -/
def checkModule (guard : Guard) : List String → Except Forbidden Unit
  | [] => .ok ()
  | root :: _ => guard.checkName root

end Guard

/-! ## The textual screen -/

namespace Screen

/-- The rest of a text after a given beginning. -/
def dropStart? : List Char → List Char → Option (List Char)
  | [], text => some text
  | _ :: _, [] => none
  | c :: start, d :: text => if c = d then dropStart? start text else none

/-- Whether a character, if there is one, is part of a word. -/
def isWordChar (c : Option Char) : Bool :=
  c.any Unicode.isWord

/-- Whether a text begins with a word, blanks and the name of a module that ends there. -/
def namesAfter (word name : List Char) (text : List Char) : Bool :=
  match dropStart? word text with
  | some (c :: rest) =>
      Unicode.isBlank c &&
        match dropStart? name (rest.dropWhile Unicode.isBlank) with
        | some after => !isWordChar after.head?
        | none => false
  | _ => false

/-- Whether a text begins with the name of a module, blanks and a dot. -/
def selectsFrom (name : List Char) (text : List Char) : Bool :=
  match dropStart? name text with
  | some rest => (rest.dropWhile Unicode.isBlank).head? == some '.'
  | none => false

/-- Whether a text uses a module at its start, given the character before it. -/
def usesHere (name : List Char) (before : Option Char) (text : List Char) : Bool :=
  !isWordChar before &&
    (namesAfter ['i', 'm', 'p', 'o', 'r', 't'] name text ||
      namesAfter ['f', 'r', 'o', 'm'] name text ||
      (before != some '.' && selectsFrom name text))

/-- Whether a text uses a module anywhere, given the character before it. -/
def usesFrom (name : List Char) : Option Char → List Char → Bool
  | _, [] => false
  | before, c :: rest => usesHere name before (c :: rest) || usesFrom name (some c) rest

/-- Whether a source mentions a module in an import, or an attribute of it. -/
def uses (name : String) (source : List Char) : Bool :=
  usesFrom name.toList none source

end Screen

/-- Refuses a source that mentions a refused module; of several the first on the list. -/
def Guard.screenSource (guard : Guard) (source : String) : Except Forbidden Unit :=
  if guard.enabled then
    match deniedModules.find? (fun name => Screen.uses name source.toList) with
    | some name => .error ⟨name⟩
    | none => .ok ()
  else .ok ()

/-! ## The structural screen -/

mutual

/-- Checks the names and attributes of an expression. -/
def Guard.screenExpr (guard : Guard) : Expr → Except Forbidden Unit
  | .null | .bool _ | .int _ | .float _ | .str _ => .ok ()
  | .var name => guard.checkName name
  | .path parts => guard.checkPath parts
  | .list items => screenExprs guard items
  | .binary _ l r | .and l r | .or l r | .index l r => do
      screenExpr guard l
      screenExpr guard r
  | .compare first links => do
      screenExpr guard first
      screenLinks guard links
  | .negate e | .not e => screenExpr guard e
  | .attr object name => do
      guard.checkAttribute name
      screenExpr guard object
  | .call callee args => do
      screenExpr guard callee
      screenExprs guard args
  | .cond c t e => do
      screenExpr guard c
      screenExpr guard t
      screenExpr guard e

/-- Checks expressions in order. -/
def Guard.screenExprs (guard : Guard) : List Expr → Except Forbidden Unit
  | [] => .ok ()
  | e :: rest => do
      screenExpr guard e
      screenExprs guard rest

/-- Checks the further operands of a comparison in order. -/
def Guard.screenLinks (guard : Guard) : List (CompareOp × Expr) → Except Forbidden Unit
  | [] => .ok ()
  | (_, e) :: rest => do
      screenExpr guard e
      screenLinks guard rest

end

/-- Checks an expression that may be missing. -/
def Guard.screenOption (guard : Guard) : Option Expr → Except Forbidden Unit
  | none => .ok ()
  | some e => guard.screenExpr e

mutual

/-- Checks what a statement binds, evaluates and imports. -/
def Guard.screenStatement (guard : Guard) : Statement → Except Forbidden Unit
  | .expr e => guard.screenExpr e
  | .assign target value => do
      guard.checkName target
      guard.screenExpr value
  | .branch branches otherwise => do
      screenBranches guard branches
      screenBlock guard otherwise
  | .loop name iterable body => do
      guard.checkName name
      guard.screenExpr iterable
      screenBlock guard body
  | .raise _ message => guard.screenOption message
  | .assert condition message => do
      guard.screenExpr condition
      guard.screenOption message
  | .importModule path => guard.checkModule path
  | .pass => .ok ()

/-- Checks statements in order. -/
def Guard.screenBlock (guard : Guard) : List Statement → Except Forbidden Unit
  | [] => .ok ()
  | statement :: rest => do
      screenStatement guard statement
      screenBlock guard rest

/-- Checks conditions and their bodies in order. -/
def Guard.screenBranches (guard : Guard) :
    List (Expr × List Statement) → Except Forbidden Unit
  | [] => .ok ()
  | (condition, body) :: rest => do
      guard.screenExpr condition
      screenBlock guard body
      screenBranches guard rest

end

/-- Refuses a program that contains a refused name or attribute, even where it never runs. -/
def Guard.screenProgram (guard : Guard) (program : Program) : Except Forbidden Unit :=
  if guard.enabled then guard.screenBlock program else .ok ()

end SchemaGuard
