import DawnServer.Session.Turn

/-!
# What a turn reads

A session reads at most one file when it starts and at most one in each turn.  The
paths are known beforehand, and a turn depends on the files only through its path
(`turn?_congr`); so whoever runs a session reads that one file first.
-/

namespace DawnServer

namespace Settings

def wantedPath? (settings : Settings) : Option (List UInt8) := settings.frameworkPath

end Settings

namespace Session

def pathBeside? (session : Session) (uri : Url) : Option (List UInt8) :=
  if session.registry.isFilled then none else (Table.pathBeside uri).toOption

/-- The path that a turn reads. -/
def wantedPath? (session : Session) (message : Message) : Option (List UInt8) :=
  match Method.ofName message.method, message.params with
  | .notice read, some params =>
    match read params with
    | some (.opened uri _) => session.pathBeside? uri
    | _ => none
  | _, _ => none

theorem adoptBeside_congr {files files' : FileReader} (uri : Url) (session : Session)
    (h : ∀ path ∈ session.pathBeside? uri, files path = files' path) :
    adoptBeside files uri session = adoptBeside files' uri session := by
  unfold adoptBeside
  split
  · rfl
  · next hf =>
    cases hp : Table.pathBeside uri with
    | error _ => rfl
    | ok path =>
      have hw : path ∈ session.pathBeside? uri := by simp [pathBeside?, hf, hp, Except.toOption]
      simp only [Table.read, h path hw]

theorem notice_congr {files files' : FileReader} (session : Session) (received : ClientNotice)
    (h : ∀ uri document, received = .opened uri document →
      ∀ path ∈ session.pathBeside? uri, files path = files' path) :
    session.notice files received = session.notice files' received := by
  cases received with
  | opened uri document =>
    simp only [notice, openDocument, adoptBeside_congr uri session (h uri document rfl)]
  | _ => rfl

theorem notified_congr {files files' : FileReader} (session : Session) (id : Option MessageId)
    (read : Json → Option ClientNotice) (params : Option Json)
    (h : ∀ value uri document, params = some value → read value = some (.opened uri document) →
      ∀ path ∈ session.pathBeside? uri, files path = files' path) :
    session.notified files id read params = session.notified files' id read params := by
  unfold notified
  split
  · cases params with
    | none => rfl
    | some value =>
      cases hr : read value with
      | none => simp [hr]
      | some received =>
        have hn : session.notice files received = session.notice files' received :=
          session.notice_congr received fun uri document ho => h value uri document rfl (ho ▸ hr)
        simp [hr, hn]
  · rfl
  · rfl

theorem turn?_congr {files files' : FileReader} (session : Session) (message : Message)
    (h : ∀ path ∈ session.wantedPath? message, files path = files' path) :
    session.turn? files message = session.turn? files' message := by
  obtain ⟨id, name, params⟩ := message
  unfold turn?
  cases hm : Method.ofName name with
  | notice read =>
    have hn : session.notified files id read params = session.notified files' id read params :=
      session.notified_congr id read params fun value uri document hv hr path hp =>
        h path (by simpa [wantedPath?, hm, hv, hr] using hp)
    simp only [hm, hn]
  | _ => simp only [hm]

end Session

end DawnServer
