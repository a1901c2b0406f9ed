import DawnServer.Session.Handlers

/-!
# A handler alone

Documents in cells are the documents of a session (`Desk.Shows`), and a handler that nobody
interrupts does what the session does with the notification (`Handler.alone_arrived`).  So the
handlers that are cut where they wait are those of the session.
-/

namespace DawnServer

/-! ## Documents in cells -/

namespace Desk

variable {desk : Desk} {session : Session}

theorem document?_insert (key other : Text) (document : Document) :
    (desk.insert key document).document? other =
      if other = key then some document else desk.document? other := by
  unfold document? insert
  by_cases hkey : other = key
  · simp [hkey]
  · simp only [if_neg hkey]
    cases hplace : desk.place other with
    | none => rfl
    | some cell =>
      have hinside : cell < desk.cells.length := desk.inside other cell hplace
      show (desk.cells ++ [document])[cell]? = desk.cells[cell]?
      rw [List.getElem?_append_left hinside]

theorem document?_write {key : Text} {cell : Nat} (hplace : desk.place key = some cell)
    (document : Document) (other : Text) :
    (desk.write cell document).document? other =
      if other = key then some document else desk.document? other := by
  unfold document? write
  by_cases hkey : other = key
  · have hinside : cell < desk.cells.length := desk.inside key cell hplace
    simp [hkey, hplace, hinside]
  · simp only [if_neg hkey]
    cases hother : desk.place other with
    | none => rfl
    | some held =>
      have hapart : cell ≠ held := fun h => hkey (desk.apart other key cell (h ▸ hother) hplace)
      show (desk.cells.set cell document)[held]? = desk.cells[held]?
      rw [List.getElem?_set_ne hapart]

theorem document?_erase (key other : Text) :
    (desk.erase key).document? other = if other = key then none else desk.document? other := by
  unfold document? erase
  by_cases hkey : other = key <;> simp [hkey]

theorem cells_adopt (files : FileReader) (path : List UInt8) :
    (desk.adopt files path).cells = desk.cells := by
  unfold adopt
  split <;> rfl

theorem foldr_insert (entries : List (Text × Document)) (settings : Settings)
    (registry : Registry) :
    let desk := entries.foldr (fun (key, document) desk => desk.insert key document)
      (empty settings registry)
    desk.settings = settings ∧ desk.registry = registry ∧
      ∀ key, desk.document? key = entries.lookup key := by
  induction entries with
  | nil => exact ⟨rfl, rfl, fun key => rfl⟩
  | cons entry entries ih =>
    obtain ⟨hsettings, hregistry, hdocuments⟩ := ih
    refine ⟨hsettings, hregistry, fun key => ?_⟩
    rw [List.foldr_cons, document?_insert, hdocuments, List.lookup_cons]
    by_cases hkey : key = entry.1
    · simp [hkey]
    · simp [hkey, beq_eq_false_iff_ne.2 hkey]

theorem exists_cell {key : Text} {cell : Nat} (hplace : desk.place key = some cell) :
    ∃ document, desk.cells[cell]? = some document := by
  have hinside : cell < desk.cells.length := desk.inside key cell hplace
  exact ⟨desk.cells[cell], List.getElem?_eq_getElem hinside⟩

theorem getElem?_insert (key : Text) (document : Document) :
    (desk.insert key document).cells[desk.cells.length]? = some document :=
  List.getElem?_concat_length

theorem getElem?_write {key : Text} {cell : Nat} (hplace : desk.place key = some cell)
    (document : Document) : (desk.write cell document).cells[cell]? = some document :=
  List.getElem?_set_self (desk.inside key cell hplace)

/-- The desk holds what a session holds. -/
structure Shows (desk : Desk) (session : Session) : Prop where
  settings : desk.settings = session.settings
  registry : desk.registry = session.registry
  documents : ∀ key, desk.document? key = session.documents.get? key

theorem shows_ofSession (session : Session) : (ofSession session).Shows session := by
  obtain ⟨hsettings, hregistry, hdocuments⟩ :=
    foldr_insert session.documents.entries session.settings session.registry
  exact ⟨hsettings, hregistry, hdocuments⟩

theorem Shows.pathBeside? (shown : desk.Shows session) (uri : Url) :
    desk.pathBeside? uri = session.pathBeside? uri := by
  rw [Desk.pathBeside?, Session.pathBeside?, shown.registry]

theorem Shows.insert (shown : desk.Shows session) (uri : Url) (document : Document) :
    (desk.insert uri.render document).Shows (session.store uri document) := by
  refine ⟨shown.settings, shown.registry, fun key => ?_⟩
  rw [document?_insert, shown.documents, Session.store, DocumentStore.get?_insert]

theorem Shows.write (shown : desk.Shows session) {uri : Url} {cell : Nat}
    (hplace : desk.place uri.render = some cell) (document : Document) :
    (desk.write cell document).Shows (session.store uri document) := by
  refine ⟨shown.settings, shown.registry, fun key => ?_⟩
  rw [document?_write hplace, shown.documents, Session.store, DocumentStore.get?_insert]

theorem Shows.erase (shown : desk.Shows session) (key : Text) :
    (desk.erase key).Shows { session with documents := session.documents.erase key } := by
  refine ⟨shown.settings, shown.registry, fun other => ?_⟩
  rw [document?_erase, shown.documents, DocumentStore.get?_erase]

theorem Shows.provide (shown : desk.Shows session) (table : Table) (source : TableSource) :
    (desk.provide table source).Shows
      { session with registry := session.registry.provide table source } := by
  refine ⟨shown.settings, ?_, shown.documents⟩
  show desk.registry.provide table source = _
  rw [shown.registry]

theorem Shows.adopt (shown : desk.Shows session) (files : FileReader) {uri : Url}
    {path : List UInt8} (hpath : session.pathBeside? uri = some path) :
    (desk.adopt files path).Shows (session.adoptBeside files uri) := by
  unfold Session.pathBeside? at hpath
  unfold Desk.adopt Session.adoptBeside
  split at hpath
  · cases hpath
  · rw [if_neg ‹_›]
    cases hbeside : Table.pathBeside uri with
    | error cause => simp [hbeside, Except.toOption] at hpath
    | ok beside =>
      obtain rfl : beside = path := by simpa [hbeside, Except.toOption] using hpath
      cases hread : Table.read files beside with
      | error cause =>
        simp only [hread]
        exact shown
      | ok table =>
        simp only [hread]
        exact shown.provide table .adjacentFile

end Desk

theorem Session.adoptBeside_of_none {files : FileReader} {session : Session} {uri : Url}
    (hpath : session.pathBeside? uri = none) : session.adoptBeside files uri = session := by
  unfold pathBeside? at hpath
  unfold adoptBeside
  split
  · rfl
  · rw [if_neg ‹_›] at hpath
    cases hbeside : Table.pathBeside uri with
    | error cause => rfl
    | ok beside => simp [hbeside, Except.toOption] at hpath

/-! ## A handler alone -/

namespace Handler

variable {files : FileReader} {desk : Desk} {session : Session}

theorem alone_finished (turns : Nat) : finished.alone files desk turns = ⟨desk, .finished, []⟩ := by
  induction turns with
  | zero => rfl
  | succ turns ih =>
    rw [alone]
    simp only [resume, ih, List.append_nil]

theorem alone_checking (uri : Url) {cell : Nat} {document : Document}
    (hcell : desk.cells[cell]? = some document) (turns : Nat) :
    (checking uri cell document).alone files desk (turns + 1) =
      ⟨desk, .finished, [.diagnostics uri.render (some document.version)
        (desk.settings.diagnostics.diagnose document.text)]⟩ := by
  have hversion : desk.cells[cell]?.map (·.version) = some document.version := by rw [hcell]; rfl
  simp only [alone, resume, hversion, if_true, alone_finished, List.append_nil]

theorem alone_copying (uri : Url) {cell : Nat} {document : Document}
    (hcell : desk.cells[cell]? = some document) (turns : Nat) :
    (copying uri cell).alone files desk (turns + 2) =
      ⟨desk, .finished, [.diagnostics uri.render (some document.version)
        (desk.settings.diagnostics.diagnose document.text)]⟩ := by
  rw [alone]
  simp only [resume, hcell, alone_checking uri hcell, List.nil_append]

/-- A handler is done, and has left what a notification leaves. -/
structure Leaves (last : Segment) (after : Session × List ServerNotice) : Prop where
  rest : last.rest = .finished
  desk : last.desk.Shows after.1
  sent : last.sent = after.2

theorem leaves_copying (files : FileReader) (shown : desk.Shows session) (uri : Url)
    {cell : Nat} {document : Document} (hcell : desk.cells[cell]? = some document)
    (turns : Nat) :
    Leaves ((copying uri cell).alone files desk (turns + 2))
      (session, [session.diagnosticsOf uri document]) := by
  rw [alone_copying uri hcell]
  refine ⟨rfl, shown, ?_⟩
  rw [shown.settings]
  rfl

/-- **A handler that nobody interrupts does what the session does with the notification.**  It
is done after four turns, leaves what the session becomes, and has sent what the session
sends. -/
theorem alone_arrived (shown : desk.Shows session) (received : ClientNotice) (turns : Nat) :
    Leaves ((arrived received).alone files desk (turns + 4)) (session.notice files received) := by
  rw [alone]
  cases received with
  | ready =>
    simp only [resume, begin, alone_finished]
    exact ⟨rfl, shown, rfl⟩
  | closed uri =>
    simp only [resume, begin, alone_finished]
    exact ⟨rfl, shown.erase uri.render, rfl⟩
  | framework table =>
    simp only [resume, begin, alone_finished]
    exact ⟨rfl, shown.provide table .notification, rfl⟩
  | opened uri document =>
    simp only [resume, begin]
    cases hpath : desk.pathBeside? uri with
    | none =>
      have hadopt : session.adoptBeside files uri = session :=
        Session.adoptBeside_of_none (shown.pathBeside? uri ▸ hpath)
      simp only [insert, List.nil_append, Session.notice, Session.openDocument, hadopt]
      exact leaves_copying files (shown.insert uri document) uri (desk.getElem?_insert _ _) (turns + 1)
    | some path =>
      have hshown : (desk.adopt files path).Shows (session.adoptBeside files uri) :=
        shown.adopt files (shown.pathBeside? uri ▸ hpath)
      simp only [alone, resume, insert, List.nil_append]
      exact leaves_copying files (hshown.insert uri document) uri (Desk.getElem?_insert _ _) turns
  | changed uri changes version =>
    simp only [resume, begin, Session.notice, Session.changeDocument, ← shown.documents]
    cases hplace : desk.place uri.render with
    | none =>
      simp only [alone_finished, Desk.document?, hplace]
      exact ⟨rfl, shown, rfl⟩
    | some cell =>
      obtain ⟨held, hheld⟩ := desk.exists_cell hplace
      rw [alone]
      simp only [resume, Desk.document?, hplace, hheld, Option.bind_eq_bind, Option.bind_some,
        List.nil_append]
      cases happlied : held.apply changes version with
      | error stale =>
        simp only [alone_finished]
        exact ⟨rfl, shown, rfl⟩
      | ok document =>
        exact leaves_copying files (shown.write hplace document) uri
          (Desk.getElem?_write hplace document) turns

end Handler

end DawnServer
