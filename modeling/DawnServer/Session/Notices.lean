import DawnServer.Protocol.Message
import DawnServer.Protocol.Params
import DawnServer.Session.State

/-!
# Effects of notifications

What the notifications of the client do to a session, and what the server sends in
turn.  Opening a document goes in two steps, since a framework file may have to be
read before the document is stored.
-/

namespace DawnServer.Session

/-- Takes the framework table beside a document, if there is one and none has been
provided. -/
def adoptBeside (files : FileReader) (uri : Url) (session : Session) : Session :=
  if session.registry.isFilled then session
  else
    match Table.pathBeside uri with
    | .error _ => session
    | .ok path =>
      match Table.read files path with
      | .error _ => session
      | .ok table => { session with registry := session.registry.provide table .adjacentFile }

def store (uri : Url) (document : Document) (session : Session) : Session :=
  { session with documents := session.documents.insert uri.render document }

def diagnosticsOf (session : Session) (uri : Url) (document : Document) : ServerNotice :=
  .diagnostics uri.render (some document.version)
    (session.settings.diagnostics.diagnose document.text)

def openDocument (files : FileReader) (uri : Url) (document : Document) (session : Session) :
    Session × List ServerNotice :=
  let session := store uri document (adoptBeside files uri session)
  (session, [session.diagnosticsOf uri document])

/-- Changes a document.  Documents that are not open and versions that are not newer
are passed over. -/
def changeDocument (uri : Url) (changes : List Change) (version : Int) (session : Session) :
    Session × List ServerNotice :=
  match session.documents.get? uri.render with
  | none => (session, [])
  | some document =>
    match document.apply changes version with
    | .error _ => (session, [])
    | .ok document => (store uri document session, [session.diagnosticsOf uri document])

/-- Closes a document and takes its diagnostics back, whether it was open or not. -/
def closeDocument (uri : Url) (session : Session) : Session × List ServerNotice :=
  ({ session with documents := session.documents.erase uri.render },
    [.diagnostics uri.render none []])

def takeFramework (table : Table) (session : Session) : Session :=
  { session with registry := session.registry.provide table .notification }

def notice (files : FileReader) (session : Session) : ClientNotice → Session × List ServerNotice
  | .ready => (session, [.log "Dawn language server initialized".toList])
  | .opened uri document => openDocument files uri document session
  | .changed uri changes version => changeDocument uri changes version session
  | .closed uri => closeDocument uri session
  | .framework table => (takeFramework table session, [])

end DawnServer.Session
