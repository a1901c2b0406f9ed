import DawnServer.Text.Utf8

/-!
# File trees

The files that the server can read, as a value.  A path is a row of bytes; it is
followed component by component from the root or from a working directory, and what
goes wrong on the way is a cause of its own.
-/

namespace DawnServer

abbrev FileName := List UInt8

inductive FileNode where
  | file (content : List UInt8)
  | directory
  deriving Repr, DecidableEq

/-- The entries of a tree, each under the names that lead to it from the root.  The
root itself is a directory of every tree. -/
structure FileTree where
  nodes : List (List FileName × FileNode)

inductive ReadError where
  | missing
  | notDirectory
  | isDirectory
  | notText
  | nameTooLong
  | zeroByte
  | denied
  deriving Repr, DecidableEq

abbrev FileReader := List UInt8 → Except ReadError Text

def ReadError.message : ReadError → String
  | .missing => "No such file or directory (os error 2)"
  | .notDirectory => "Not a directory (os error 20)"
  | .isDirectory => "Is a directory (os error 21)"
  | .notText => "stream did not contain valid UTF-8"
  | .nameTooLong => "File name too long (os error 36)"
  | .zeroByte => "file name contained an unexpected NUL byte"
  | .denied => "Permission denied (os error 13)"

namespace FileTree

def empty : FileTree := ⟨[]⟩

def at? (tree : FileTree) (place : List FileName) : Option FileNode :=
  if place = [] then some .directory else tree.nodes.lookup place

def slash : UInt8 := 0x2F

def dot : UInt8 := 0x2E

/-- The components of a path.  Empty ones count for nothing. -/
def components (path : List UInt8) : List FileName := (path.splitOn slash).filter (· ≠ [])

/-- Whether a path can only name a directory, by the way it ends. -/
def namesDirectory (path : List UInt8) : Bool :=
  path.getLast? == some slash || (components path).getLast? == some [dot]

def longestName : Nat := 255

def longestPath : Nat := 4095

def follow (tree : FileTree) (place : List FileName) :
    List FileName → Except ReadError (List FileName)
  | [] => .ok place
  | name :: names =>
    match tree.at? place with
    | none => .error .missing
    | some (.file _) => .error .notDirectory
    | some .directory =>
      if name = [dot] then follow tree place names
      else if name = [dot, dot] then follow tree place.dropLast names
      else if longestName < name.length then .error .nameTooLong
      else follow tree (place ++ [name]) names

def readBytes (tree : FileTree) (working : List FileName) (path : List UInt8) :
    Except ReadError (List UInt8) := do
  if path = [] then throw .missing
  if path.contains 0 then throw .zeroByte
  if longestPath < path.length then throw .nameTooLong
  let start := if path.head? = some slash then [] else working
  let place ← tree.follow start (components path)
  match tree.at? place with
  | none => throw .missing
  | some .directory => throw .isDirectory
  | some (.file content) => if namesDirectory path then throw .notDirectory else return content

def reader (tree : FileTree) (working : List FileName) : FileReader := fun path => do
  match Utf8.decode? (← tree.readBytes working path) with
  | some text => return text
  | none => throw .notText

def put (tree : FileTree) (place : List FileName) (node : FileNode) : FileTree :=
  ⟨(place, node) :: tree.nodes.filter (·.1 ≠ place)⟩

/-- Makes directories of all places on the way from one place to another. -/
def makeDirectories (tree : FileTree) (place : List FileName) : List FileName → FileTree
  | [] => tree
  | name :: names =>
    let place := place ++ [name]
    (match tree.at? place with
      | some _ => tree
      | none => tree.put place .directory).makeDirectories place names

def write (tree : FileTree) (path : List UInt8) (node : FileNode) : FileTree :=
  let place := components path
  match node with
  | .directory => tree.makeDirectories [] place
  | .file _ => (tree.makeDirectories [] place.dropLast).put place node

def remove (tree : FileTree) (path : List UInt8) : FileTree :=
  ⟨tree.nodes.filter (·.1 ≠ components path)⟩

end FileTree

end DawnServer
