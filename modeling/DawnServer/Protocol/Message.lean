import DawnServer.Diagnostics
import DawnServer.Json.Printer
import DawnServer.Text.Utf8

/-!
# Messages

What client and server send each other: requests and notifications of the client,
replies and notifications of the server.
-/

namespace DawnServer

inductive MessageId where
  | number (n : Int)
  | text (text : Text)
  | null
  deriving Repr, DecidableEq

/-- A message of the client: a request if it has an identifier, a notification if not. -/
structure Message where
  id : Option MessageId
  method : Text
  params : Option Json

inductive Failure where
  | notStarted
  | invalidRequest
  | unknownMethod (method : Text)
  | unserved
  | invalidParams
  deriving Repr, DecidableEq

structure Reply where
  id : MessageId
  outcome : Except Failure Json

inductive ServerNotice where
  /-- The diagnostics of a document, in a version if it is open. -/
  | diagnostics (uri : Text) (version : Option Int) (list : List Diagnostic)
  | log (message : Text)
  deriving Repr, DecidableEq

def MessageId.ofJson? : Json → Option MessageId
  | .null => some .null
  | .str name => some (.text name)
  | value => (value.intBetween? (-0x8000000000000000) 0x7FFFFFFFFFFFFFFF).map .number

def MessageId.toJson : MessageId → Json
  | .number n => .int n
  | .text name => .str name
  | .null => .null

/-- Reads a message.  A message without a method has the empty one, and of parameters with
one name the last counts. -/
def Message.ofJson? : Json → Option Message
  | .obj members => do
    let id ←
      match Json.lookup? "id".toList members with
      | none => some none
      | some id => (MessageId.ofJson? id).map some
    let method ←
      match Json.lookup? "method".toList members with
      | none => some []
      | some method => method.text?
    return ⟨id, method, (Json.lookup? "params".toList members).map Json.settled⟩
  | _ => none

namespace Failure

def code : Failure → Int
  | notStarted => -32002
  | invalidRequest => -32600
  | unknownMethod _ => -32601
  | unserved => -32601
  | invalidParams => -32602

def message : Failure → String
  | notStarted => "Server not initialized"
  | invalidRequest => "Invalid request"
  | unknownMethod _ => "Method not found"
  | unserved => "Method not found"
  | invalidParams => "Invalid params"

/-- A failure as a value.  An unknown method is named in it. -/
def toJson (failure : Failure) : Json :=
  .object ([("code", .int failure.code), ("message", .lit failure.message)] ++
    match failure with
    | unknownMethod method => [("data", .str method)]
    | _ => [])

end Failure

def protocolMember : String × Json := ("jsonrpc", .lit "2.0")

def Reply.toJson (reply : Reply) : Json :=
  .object [protocolMember, ("id", reply.id.toJson),
    match reply.outcome with
    | .ok result => ("result", result)
    | .error failure => ("error", failure.toJson)]

def Diagnostic.toJson (diagnostic : Diagnostic) : Json :=
  let place (column : Nat) : Json := .object [("line", .int 0), ("character", .nat column)]
  .object [
    ("range", .object [
      ("start", place diagnostic.firstColumn), ("end", place diagnostic.endColumn)]),
    ("severity", .nat diagnostic.severity),
    ("source", .str diagnostic.source),
    ("message", .str diagnostic.message)]

def ServerNotice.toJson : ServerNotice → Json
  | .diagnostics uri version list =>
    .object [
      protocolMember,
      ("method", .lit "textDocument/publishDiagnostics"),
      ("params", .object ([("uri", .str uri), ("diagnostics", .arr (list.map Diagnostic.toJson))] ++
        (version.map fun version => ("version", Json.int version)).toList))]
  | .log message =>
    .object [
      protocolMember,
      ("method", .lit "window/logMessage"),
      ("params", .object [("type", .int 3), ("message", .str message)])]

/-! ## Frames

On a stream a message follows a header: fields, one a line, and an empty line after
them.  The field `Content-Length` gives the number of bytes of the message. -/

namespace Frame

def lengthName : Text := "Content-Length".toList

def length? (field : Text) : Option Nat :=
  match Text.cut ':' field with
  | (name, some value) =>
    if Text.asciiLower (Text.trim name) = Text.asciiLower lengthName then
      Text.number? 10 (Text.trim value)
    else none
  | (_, none) => none

def header (length : Nat) : Text :=
  lengthName ++ ": ".toList ++ Text.ofNat length ++ "\r\n\r\n".toList

def encode (message : Json) : List UInt8 :=
  let bytes := Utf8.encode message.compact
  Utf8.encode (header bytes.length) ++ bytes

end Frame

end DawnServer
