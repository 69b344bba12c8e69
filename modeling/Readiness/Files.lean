/-! # Files

The texts of paths, and the files below the working directory: what is found at the end of a path. A
path may leave the working directory upwards, but nothing has a name there. -/
namespace Readiness.Files

/-! ## Paths

Slashes separate the components of a path; empty components and single points mean nothing. -/

def isAbsolute (path : String) : Bool := path.toList.head? == some '/'

/-- The path that leads to `inner` when one stands at `path`. -/
def join (path inner : String) : String :=
  if isAbsolute inner ∨ path = "" then inner
  else if path.toList.getLast? = some '/' then path ++ inner
  else path ++ "/" ++ inner

def components (path : String) : List String :=
  ((path.toList.splitOnP (· == '/')).map String.ofList).filter fun part => part != "" && part != "."

def fileName? (path : String) : Option String :=
  match (components path).getLast? with
  | some ".." => none
  | last => last

/-! ## Trees -/

inductive Node where
  | directory
  | file (executable : Bool)
  deriving DecidableEq, Repr

inductive Absence where
  | missing
  /-- The path goes on where a file is. -/
  | belowFile
  /-- A name, or the whole path, is longer than names and paths may be. -/
  | tooLong
  deriving DecidableEq, Repr

/-- Where one stands: below the working directory, or some levels above it. -/
inductive Place where
  | inside (path : List String)
  | above (levels : Nat)

/-- Everything below the working directory, each at its path. -/
abbrev Tree := List (List String × Node)

namespace Tree

/-- The directories on the way to a path, without the path itself. -/
def ways (path : List String) : List (List String) :=
  (List.range (path.length - 1)).map fun n => path.take (n + 1)

/-- A tree that also has a node at a path, and the directories on the way. -/
def add (tree : Tree) (path : String) (node : Node) : Tree :=
  tree ++ (ways (components path)).map (·, .directory) ++ [(components path, node)]

/-- A path that ends in a slash is that of a directory. -/
def addNamed (tree : Tree) (path : String) : Tree :=
  tree.add path (if path.toList.getLast? = some '/' then .directory else .file false)

def nodeAt (tree : Tree) (path : List String) : Option Node :=
  if path = [] then some .directory else tree.lookup path

def nameLimit : Nat := 255

/-- The number of octets that a path may have. -/
def pathLimit : Nat := 4095

/-- A place where nothing has the name that a path asks for. -/
def nameless (part : String) : Absence :=
  if nameLimit < part.utf8ByteSize then .tooLong else .missing

/-- The place that the parts of a path lead to. Every part leads on from a directory. -/
def walk (tree : Tree) : Place → List String → Except Absence Place
  | place, [] => .ok place
  | .above levels, part :: rest =>
    if part = ".." then walk tree (.above (levels + 1)) rest
    else if part = "." then walk tree (.above levels) rest
    else .error (nameless part)
  | .inside path, part :: rest =>
    match tree.nodeAt path with
    | none => .error .missing
    | some (.file _) => .error .belowFile
    | some .directory =>
      if part = "." then walk tree (.inside path) rest
      else if part = ".." then
        walk tree (if path = [] then .above 1 else .inside path.dropLast) rest
      else if nameLimit < part.utf8ByteSize then .error .tooLong
      else walk tree (.inside (path ++ [part])) rest

/-- The parts of a path. One that ends in a slash asks for what is in a directory. -/
def parts (path : String) : List String :=
  let named := ((path.toList.splitOnP (· == '/')).map String.ofList).filter (· != "")
  if path.toList.getLast? = some '/' then named ++ ["."] else named

/-- What is at a path. Of the paths from the root only those are known that lead back to it. -/
def find (tree : Tree) (path : String) : Except Absence Node :=
  if path = "" then .error .missing
  else if pathLimit < path.utf8ByteSize then .error .tooLong
  else if isAbsolute path then
    match (components path).find? (· != "..") with
    | none => .ok .directory
    | some part => .error (nameless part)
  else
    match walk tree (.inside []) (parts path) with
    | .error absence => .error absence
    | .ok (.above _) => .ok .directory
    | .ok (.inside place) =>
      match tree.nodeAt place with
      | some node => .ok node
      | none => .error .missing

def has (tree : Tree) (path : String) : Bool := (tree.find path).isOk

end Tree

end Readiness.Files
