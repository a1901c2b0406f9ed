import DawnServer.Document.Store
import DawnServer.Diagnostics
import DawnServer.Framework.File
import DawnServer.Framework.Registry
import DawnServer.Script.Token

/-!
# The state of a session

What a session keeps between messages: its settings, how far it has come, the open
documents and the framework table.
-/

namespace DawnServer

structure Settings where
  /-- The framework file to read at once. -/
  frameworkPath : Option (List UInt8)
  spans : SpanLength
  diagnostics : DiagnosticsMode
  deriving Repr, DecidableEq

/-- How far a session has come. -/
inductive Phase where
  | fresh
  | running
  | shutDown
  | ended
  deriving Repr, DecidableEq

/-- A session between two messages. -/
structure Session where
  settings : Settings
  phase : Phase
  documents : DocumentStore
  registry : Registry

namespace Session

/-- The framework table that a session starts with.  A file that was asked for and
cannot be read leaves the builtin table for good. -/
def startRegistry (files : FileReader) (settings : Settings) : Registry :=
  match settings.frameworkPath with
  | none => Registry.empty
  | some path =>
    match Table.read files path with
    | .ok table => Registry.empty.provide table .commandLine
    | .error _ => Registry.empty.provide Table.builtin .builtin

def start (files : FileReader) (settings : Settings) : Session :=
  ⟨settings, .fresh, DocumentStore.empty, startRegistry files settings⟩

def summary (session : Session) : Text :=
  let source :=
    match session.registry.source? with
    | none => "None".toList
    | some source => "Some(".toList ++ source.name.toList ++ [')']
  "DawnBackend \x7b diagnostics: \"".toList ++ session.settings.diagnostics.name.toList ++
    "\", documents_count: ".toList ++ Text.ofNat session.documents.size ++
    ", framework_source: ".toList ++ source ++ " \x7d".toList

end Session

end DawnServer
