import DawnServer.Session.Reading

/-!
# Handlers side by side

The handlers of notifications, cut where they wait: for a framework file, for the lock of a
document, for diagnostics.  Up to its next wait a handler is not interrupted, and while it waits
others go on.  An open document lies in a cell; a handler that has looked the document up keeps
to that cell, even when the URI leads to another one by then.
-/

namespace DawnServer

/-- What the handlers of a session share. -/
structure Desk where
  settings : Settings
  registry : Registry
  /-- The documents that were opened, each in a cell of its own. -/
  cells : List Document
  /-- The cell to which the URI of an open document leads. -/
  place : Text → Option Nat
  inside : ∀ key cell, place key = some cell → cell < cells.length
  apart : ∀ key other cell, place key = some cell → place other = some cell → key = other

namespace Desk

def empty (settings : Settings) (registry : Registry) : Desk where
  settings := settings
  registry := registry
  cells := []
  place _ := none
  inside := by simp
  apart := by simp

def document? (desk : Desk) (key : Text) : Option Document :=
  desk.place key >>= fun cell => desk.cells[cell]?

/-- Opens a document in a new cell; a URI that led to another one now leads there. -/
def insert (desk : Desk) (key : Text) (document : Document) : Desk where
  settings := desk.settings
  registry := desk.registry
  cells := desk.cells ++ [document]
  place other := if other = key then some desk.cells.length else desk.place other
  inside other cell h := by
    split at h
    · simp only [Option.some.injEq] at h
      simp [h]
    · have hinside : cell < desk.cells.length := desk.inside other cell h
      rw [List.length_append]
      omega
  apart one other cell hone hother := by
    have hold (key : Text) : desk.place key ≠ some desk.cells.length := fun h =>
      absurd (desk.inside key _ h) (Nat.lt_irrefl _)
    grind [desk.apart]

def write (desk : Desk) (cell : Nat) (document : Document) : Desk where
  settings := desk.settings
  registry := desk.registry
  cells := desk.cells.set cell document
  place := desk.place
  inside key cell h := by
    rw [List.length_set]
    exact desk.inside key cell h
  apart := desk.apart

/-- Closes the document under a URI.  Its cell stays, for those who still hold it. -/
def erase (desk : Desk) (key : Text) : Desk where
  settings := desk.settings
  registry := desk.registry
  cells := desk.cells
  place other := if other = key then none else desk.place other
  inside other cell h := by
    split at h
    · cases h
    · exact desk.inside other cell h
  apart one other cell hone hother := by
    grind [desk.apart]

def provide (desk : Desk) (table : Table) (source : TableSource) : Desk :=
  { desk with registry := desk.registry.provide table source }

def adopt (files : FileReader) (path : List UInt8) (desk : Desk) : Desk :=
  match Table.read files path with
  | .error _ => desk
  | .ok table => desk.provide table .adjacentFile

def pathBeside? (desk : Desk) (uri : Url) : Option (List UInt8) :=
  if desk.registry.isFilled then none else (Table.pathBeside uri).toOption

def ofSession (session : Session) : Desk :=
  session.documents.entries.foldr (fun (key, document) desk => desk.insert key document)
    (empty session.settings session.registry)

end Desk

/-- What a handler still has to do. -/
inductive Handler where
  | arrived (received : ClientNotice)
  /-- It waits for a framework file before it opens a document. -/
  | reading (path : List UInt8) (uri : Url) (document : Document)
  /-- It waits for the lock under which it changes the document in a cell. -/
  | changing (uri : Url) (cell : Nat) (changes : List Change) (version : Int)
  /-- It waits for the lock under which it takes a copy to be checked. -/
  | copying (uri : Url) (cell : Nat)
  /-- It waits for the diagnostics of a copy, and to see whether the version is still that. -/
  | checking (uri : Url) (cell : Nat) (copy : Document)
  | finished

/-- What a handler comes to when it waits the next time. -/
structure Segment where
  desk : Desk
  rest : Handler
  sent : List ServerNotice

namespace Handler

def isFinished : Handler → Bool
  | .finished => true
  | _ => false

def insert (desk : Desk) (uri : Url) (document : Document) : Segment :=
  ⟨desk.insert uri.render document, .copying uri desk.cells.length, []⟩

def begin (desk : Desk) : ClientNotice → Segment
  | .ready => ⟨desk, .finished, [.log "Dawn language server initialized".toList]⟩
  | .opened uri document =>
    match desk.pathBeside? uri with
    | none => insert desk uri document
    | some path => ⟨desk, .reading path uri document, []⟩
  | .changed uri changes version =>
    match desk.place uri.render with
    | none => ⟨desk, .finished, []⟩
    | some cell => ⟨desk, .changing uri cell changes version, []⟩
  | .closed uri => ⟨desk.erase uri.render, .finished, [.diagnostics uri.render none []]⟩
  | .framework table => ⟨desk.provide table .notification, .finished, []⟩

/-- Goes on up to the next wait. -/
def resume (files : FileReader) (desk : Desk) : Handler → Segment
  | .arrived received => begin desk received
  | .reading path uri document => insert (desk.adopt files path) uri document
  | .changing uri cell changes version =>
    match desk.cells[cell]? with
    | none => ⟨desk, .finished, []⟩
    | some document =>
      match document.apply changes version with
      | .error _ => ⟨desk, .finished, []⟩
      | .ok document => ⟨desk.write cell document, .copying uri cell, []⟩
  | .copying uri cell =>
    match desk.cells[cell]? with
    | none => ⟨desk, .finished, []⟩
    | some document => ⟨desk, .checking uri cell document, []⟩
  | .checking uri cell copy =>
    if (desk.cells[cell]?.map (·.version)) = some copy.version then
      ⟨desk, .finished, [.diagnostics uri.render (some copy.version)
        (desk.settings.diagnostics.diagnose copy.text)]⟩
    else ⟨desk, .finished, []⟩
  | .finished => ⟨desk, .finished, []⟩

/-- Goes on with nobody in between, as often as there is something to wait for. -/
def alone (files : FileReader) (desk : Desk) (handler : Handler) : Nat → Segment
  | 0 => ⟨desk, handler, []⟩
  | turns + 1 =>
    let next := handler.resume files desk
    let last := next.rest.alone files next.desk turns
    { last with sent := next.sent ++ last.sent }

end Handler

inductive Side where
  | earlier
  | later
  deriving DecidableEq

structure Handlers where
  desk : Desk
  earlier : Handler
  later : Handler
  sent : List ServerNotice

namespace Handlers

def ofSession (session : Session) (earlier later : ClientNotice) : Handlers :=
  ⟨Desk.ofSession session, .arrived earlier, .arrived later, []⟩

/-- One of the handlers goes on up to its next wait. -/
def turn (files : FileReader) (handlers : Handlers) : Side → Handlers
  | .earlier =>
    let next := handlers.earlier.resume files handlers.desk
    ⟨next.desk, next.rest, handlers.later, handlers.sent ++ next.sent⟩
  | .later =>
    let next := handlers.later.resume files handlers.desk
    ⟨next.desk, handlers.earlier, next.rest, handlers.sent ++ next.sent⟩

def run (files : FileReader) (handlers : Handlers) (turns : List Side) : Handlers :=
  turns.foldl (turn files) handlers

def areFinished (handlers : Handlers) : Bool :=
  handlers.earlier.isFinished && handlers.later.isFinished

end Handlers

end DawnServer
