import DawnServer.Files.Tree
import DawnServer.Framework.Source
import DawnServer.Json.Printer
import DawnServer.Text.Printable
import DawnServer.Url.Basic

/-!
# The framework file

A project keeps its framework table in a file that lies beside its scripts.  Here a
document's URI leads to that file, and a path to a table.
-/

namespace DawnServer

/-- Why there is no framework file to read, or no table in it. -/
inductive FrameworkError where
  | unreadable (path : List UInt8) (cause : ReadError)
  /-- The URI of the document does not name a file. -/
  | notLocal (uri : Url)
  deriving Repr, DecidableEq

def FrameworkError.message : FrameworkError → Text
  | .unreadable path cause =>
    "failed to read framework file ".toList ++ Text.quoted (Utf8.decodeLossy path) ++
      ": ".toList ++ cause.message.toList
  | .notLocal uri =>
    "document URI ".toList ++ uri.render ++ " does not name a local file".toList

/-- Ends a path that is nothing but a drive after its last slash with a slash. -/
def closeDrive (path : List UInt8) : List UInt8 :=
  match path.reverse with
  | c :: letter :: _ :: _ =>
    if (Char.ofNat letter.toNat).isAlpha ∧ (c = 0x3A ∨ c = 0x7C) then path ++ [FileTree.slash]
    else path
  | _ => path

/-- The path of the file that a URL names.  Any scheme will do, but the path has to be
hierarchical and the host empty or `localhost`. -/
def Url.filePath? (url : Url) : Option (List UInt8) :=
  let local? :=
    match url.authority with
    | none => true
    | some authority => authority.host.isEmpty || authority.host == "localhost".toList
  match url.path with
  | '/' :: path =>
    if local? then
      some (closeDrive ((path.splitOn '/').flatMap fun segment =>
        FileTree.slash :: percentDecode segment))
    else none
  | _ => none

/-- Drops the components at the end that are empty or a single dot. -/
def dropIdle (names : List FileName) : List FileName :=
  (names.reverse.dropWhile fun name => name == [] || name == [FileTree.dot]).reverse

/-- The directory that holds what an absolute path names; the root lies in none. -/
def parentPath? (path : List UInt8) : Option (List UInt8) :=
  match dropIdle (path.tail.splitOn FileTree.slash) with
  | [] => none
  | names@(_ :: _) =>
    some (FileTree.slash :: [FileTree.slash].intercalate (dropIdle names.dropLast))

namespace Table

def fileName : List UInt8 := Utf8.encode "framework.fw".toList

def pathBeside (uri : Url) : Except FrameworkError (List UInt8) :=
  match uri.filePath? >>= parentPath? with
  | none => .error (.notLocal uri)
  | some directory =>
    .ok (directory ++ (if directory = [FileTree.slash] then [] else [FileTree.slash]) ++ fileName)

def read (files : FileReader) (path : List UInt8) : Except FrameworkError Table :=
  match files path with
  | .ok source => .ok (parse source)
  | .error cause => .error (.unreadable path cause)

/-- The table in a file, or the builtin one without a path or a readable file. -/
def load (files : FileReader) (path : Option (List UInt8)) : Table :=
  match path.map (read files) with
  | some (.ok table) => table
  | _ => builtin

def payload (files : FileReader) (path : List UInt8) : Except FrameworkError Text :=
  (read files path).map fun table => table.toJson.pretty

end Table

end DawnServer
