import DawnServer.Protocol.Message
import DawnServer.Protocol.Params
import DawnServer.Script.Delta
import DawnServer.Session.Notices

/-!
# Turns

A turn takes one message to its end.  A session is started by one request, ended by
another, and left by a notification; what comes too early or too late is refused, and
a notification that cannot be read is passed over.  No request changes a document or the
framework table.
-/

namespace DawnServer

/-- What comes of a message: the session after it, the reply if it was a request, and
what the server sends meanwhile. -/
structure Turn where
  session : Session
  reply : Option Reply
  sent : List ServerNotice

namespace Session

/-! ## Answers to requests -/

def introduction : Json :=
  .object [
    ("capabilities", .object [
      ("textDocumentSync", .object [("openClose", .bool true), ("change", .int 2)]),
      ("completionProvider", .object [
        ("resolveProvider", .bool true),
        ("triggerCharacters", .arr [.lit ".", .lit ","])]),
      ("semanticTokensProvider", .object [("legend", legend), ("full", .bool true)])]),
    ("serverInfo", .object [
      ("name", .lit "dawn-language-server"), ("version", .lit "0.1.0")])]

def completions? (session : Session) (uri : Url) : Option (List CompletionItem) :=
  (session.documents.get? uri.render).map fun document =>
    CompletionItem.forDocument session.registry.table document.text

def tokens? (session : Session) (uri : Url) : Option (List Nat) :=
  (session.documents.get? uri.render).map fun document =>
    semanticTokens session.registry.table session.settings.spans document.text

def answer (session : Session) : Query → Except Failure Json
  | .complete uri =>
    .ok (match session.completions? uri with
      | some items => .arr (items.map CompletionItem.toJson)
      | none => .null)
  | .resolve item => .ok (.obj (resolveItem item))
  | .tokens uri =>
    .ok (match session.tokens? uri with
      | some numbers => .object [("data", .arr (numbers.map Json.nat))]
      | none => .null)
  | .unserved => .error .unserved

/-! ## One message -/

def replying (session : Session) (id : Option MessageId) (outcome : Except Failure Json) : Turn :=
  ⟨session, id.map (⟨·, outcome⟩), []⟩

/-- How a message is refused outside the running phase. -/
def refusal : Phase → Failure
  | .fresh => .notStarted
  | _ => .invalidRequest

/-- The request that starts a session.  It counts only with an identifier and readable
parameters, and only once. -/
def introduce (session : Session) (id : Option MessageId) (params : Option Json) : Turn :=
  match session.phase, id with
  | .fresh, some _ =>
    if params.any Shape.startParams.admits then
      { session with phase := .running }.replying id (.ok introduction)
    else session.replying id (.error .invalidParams)
  | .fresh, none => session.replying none (.error .invalidRequest)
  | _, _ => session.replying id (.error .invalidRequest)

/-- The request that ends the work of a session.  It takes no parameters. -/
def shutDown (session : Session) (id : Option MessageId) (params : Option Json) : Turn :=
  match session.phase with
  | .running =>
    { session with phase := .shutDown }.replying id
      (if params.isNone then .ok .null else .error .invalidParams)
  | phase => session.replying id (.error (refusal phase))

def notified (files : FileReader) (session : Session) (id : Option MessageId)
    (read : Json → Option ClientNotice) (params : Option Json) : Turn :=
  match session.phase, id with
  | .running, none =>
    match params >>= read with
    | none => session.replying none (.error .invalidParams)
    | some received =>
      let (session, sent) := session.notice files received
      ⟨session, none, sent⟩
  | .running, some _ => session.replying id (.error .invalidRequest)
  | phase, _ => session.replying id (.error (refusal phase))

def asked (session : Session) (id : Option MessageId) (read : Json → Option Query)
    (params : Option Json) : Turn :=
  match session.phase with
  | .running =>
    match params >>= read with
    | none => session.replying id (.error .invalidParams)
    | some query => session.replying id (session.answer query)
  | phase => session.replying id (.error (refusal phase))

def idle (session : Session) (id : Option MessageId) : Turn :=
  match session.phase with
  | .running => session.replying id (.error .invalidRequest)
  | phase => session.replying id (.error (refusal phase))

/-- A message of an unknown method.  Requests whose names begin with a dollar sign and
a slash may be left unanswered. -/
def unknown (session : Session) (id : Option MessageId) (method : Text) : Turn :=
  if Text.startsWith method ['$', '/'] then ⟨session, none, []⟩
  else session.replying id (.error (.unknownMethod method))

/-- Takes a message to its end.  After the end of a session there are no turns. -/
def turn? (files : FileReader) (session : Session) (message : Message) : Option Turn :=
  let ⟨id, name, params⟩ := message
  if session.phase = .ended then none
  else
    some (match Method.ofName name with
      | .exit => ⟨{ session with phase := .ended }, none, []⟩
      | .introduce => session.introduce id params
      | .shutDown => session.shutDown id params
      | .notice read => session.notified files id read params
      | .query read => session.asked id read params
      | .idle => session.idle id
      | .unknown => session.unknown id name)

end Session

end DawnServer
