import DawnServer.Completion
import DawnServer.Document.Basic
import DawnServer.Framework.Table
import DawnServer.Protocol.Capabilities
import DawnServer.Protocol.Unserved

/-!
# Methods and their parameters

What the methods of the protocol mean to the server.  Three methods steer the session, some
carry notifications and some requests, which are read from their parameters, and the others
are only known or not even that.
-/

namespace DawnServer

inductive ClientNotice where
  | ready
  | opened (uri : Url) (document : Document)
  | changed (uri : Url) (changes : List Change) (version : Int)
  | closed (uri : Url)
  | framework (table : Table)

/-- A request of the client that is answered within a session. -/
inductive Query where
  | complete (uri : Url)
  | resolve (item : List (Text × Json))
  | tokens (uri : Url)
  | unserved

def Url.ofJson? (value : Json) : Option Url := value.text? >>= Url.parse?

def Position.ofJson? (value : Json) : Option Position := do
  let members ← value.record? ["line", "character"]
  return ⟨← Json.required? "line" Json.uint32? members,
    ← Json.required? "character" Json.uint32? members⟩

def Range.ofJson? (value : Json) : Option Range := do
  let members ← value.record? ["start", "end"]
  return ⟨← Json.required? "start" Position.ofJson? members,
    ← Json.required? "end" Position.ofJson? members⟩

/-- Reads a change.  The length of the range has to be a number if it is there. -/
def Change.ofJson? (value : Json) : Option Change := do
  let members ← value.record? ["range", "rangeLength", "text"]
  let range ← Json.optional? "range" Range.ofJson? members
  let _ ← Json.optional? "rangeLength" Json.nat32? members
  return ⟨range, ← Json.required? "text" Json.text? members⟩

def documentParam? {α : Type} (read : Json → Option α) (params : Json) : Option α := do
  Json.required? "textDocument" read (← params.record? ["textDocument"])

def openedDocument? (value : Json) : Option ClientNotice := do
  let members ← value.record? ["uri", "languageId", "version", "text"]
  let uri ← Json.required? "uri" Url.ofJson? members
  let _ ← Json.required? "languageId" Json.text? members
  let version ← Json.required? "version" Json.int32? members
  return .opened uri ⟨← Json.required? "text" Json.text? members, version⟩

def versionedName? (value : Json) : Option (Url × Int) := do
  let members ← value.record? ["uri", "version"]
  return (← Json.required? "uri" Url.ofJson? members,
    ← Json.required? "version" Json.int32? members)

def changedDocument? (params : Json) : Option ClientNotice := do
  let members ← params.record? ["textDocument", "contentChanges"]
  let (uri, version) ← Json.required? "textDocument" versionedName? members
  return .changed uri (← Json.required? "contentChanges" (Json.listOf? Change.ofJson?) members)
    version

def documentName? (value : Json) : Option Url := do
  Json.required? "uri" Url.ofJson? (← value.record? ["uri"])

def noticeReader? (method : Text) : Option (Json → Option ClientNotice) :=
  if method = "initialized".toList then
    some fun params => (params.record? []).map fun _ => .ready
  else if method = "textDocument/didOpen".toList then some (documentParam? openedDocument?)
  else if method = "textDocument/didChange".toList then some changedDocument?
  else if method = "textDocument/didClose".toList then
    some fun params => (documentParam? documentName? params).map .closed
  else if method = "dawn/framework".toList then
    some fun params => (Table.ofJson? params).map .framework
  else none

/-- The notifications that are known and have no effect here. -/
def idleNotices : List String :=
  ["textDocument/willSave", "textDocument/didSave", "workspace/didChangeConfiguration",
    "workspace/didChangeWorkspaceFolders", "workspace/didCreateFiles",
    "workspace/didRenameFiles", "workspace/didDeleteFiles", "workspace/didChangeWatchedFiles"]

def shapedDocument? (shape : Shape) (params : Json) : Option Url :=
  match shape.read? params with
  | some (.obj members) => Json.required? "textDocument" documentName? members
  | _ => none

def completionItem? (params : Json) : Option (List (Text × Json)) :=
  match Shape.completionItem.read? params with
  | some (.obj members) => some members
  | _ => none

def queryReader? (method : Text) : Option (Json → Option Query) :=
  if method = "textDocument/completion".toList then
    some fun params => (shapedDocument? Shape.completionParams params).map .complete
  else if method = "completionItem/resolve".toList then
    some fun params => (completionItem? params).map .resolve
  else if method = "textDocument/semanticTokens/full".toList then
    some fun params => (shapedDocument? Shape.documentParams params).map .tokens
  else
    (Shape.unserved? method).map fun shape params =>
      if shape.admits params then some .unserved else none

/-- What a method is to the server. -/
inductive Method where
  | introduce
  | shutDown
  | exit
  | notice (read : Json → Option ClientNotice)
  | query (read : Json → Option Query)
  | idle
  | unknown

def Method.ofName (name : Text) : Method :=
  if name = "exit".toList then .exit
  else if name = "initialize".toList then .introduce
  else if name = "shutdown".toList then .shutDown
  else if (idleNotices.map String.toList).contains name then .idle
  else
    match noticeReader? name, queryReader? name with
    | some read, _ => .notice read
    | none, some read => .query read
    | none, none => .unknown

def CompletionItem.toJson (item : CompletionItem) : Json :=
  .object [("label", .str item.label), ("kind", .nat item.kind.code)]

/-- Gives a member a value, in place of the one it has. -/
def withMember (name : Text) (value : Json) (members : List (Text × Json)) : List (Text × Json) :=
  members.filter (·.1 ≠ name) ++ [(name, value)]

/-- A completion item with its detail.  Items of a kind without a detail stay as they
are. -/
def resolveItem (members : List (Text × Json)) : List (Text × Json) :=
  let detail? := do
    let label ← Json.required? "label" Json.text? members
    let kind ← Json.required? "kind" Json.int32? members
    CompletionItem.detail? kind label
  match detail? with
  | some detail => withMember "detail".toList (.str detail) members
  | none => members

end DawnServer
