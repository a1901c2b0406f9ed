import DawnServer.Proofs.Session.FillOnce
import DawnServer.Proofs.Session.HandlersAlone
import DawnServer.Proofs.Session.Publications

/-!
# An edit while the document is being opened

Side by side, the opening of a document and a change that comes after it end with the changed
document, with one exception: where the opening waits for a framework file and the change goes
on before it, the change finds no document, or the one from before, and is lost
(`edit_kept_unless_overtaking`).
-/

namespace DawnServer

namespace Handler

/-! ## Turns until a handler is done -/

def left : Handler → Nat
  | .arrived _ => 4
  | .reading .. => 3
  | .changing .. => 3
  | .copying .. => 2
  | .checking .. => 1
  | .finished => 0

theorem isFinished_iff (handler : Handler) : handler.isFinished ↔ handler.left = 0 := by
  cases handler <;> simp [isFinished, left]

theorem left_begin (desk : Desk) (received : ClientNotice) : (begin desk received).rest.left ≤ 3 := by
  cases received with
  | opened uri document =>
    unfold begin
    dsimp only
    split <;> simp [insert, left]
  | changed uri changes version =>
    unfold begin
    dsimp only
    split <;> simp [left]
  | _ => simp [begin, left]

theorem left_resume (files : FileReader) (desk : Desk) (handler : Handler) :
    (handler.resume files desk).rest.left ≤ handler.left - 1 := by
  cases handler with
  | arrived received => exact left_begin desk received
  | reading path uri document => exact Nat.le_refl 2
  | changing uri cell changes version =>
    unfold resume
    dsimp only
    split
    · simp [left]
    · split <;> simp [left]
  | copying uri cell =>
    unfold resume
    dsimp only
    split <;> simp [left]
  | checking uri cell copy =>
    unfold resume
    dsimp only
    split <;> simp [left]
  | finished => exact Nat.le_refl 0

/-! ## Turns of two handlers -/

/-- The handler opens nothing any more, and changes no document in a cell. -/
def Spares (cell : Nat) : Handler → Prop
  | .arrived _ => False
  | .reading .. => False
  | .changing _ held _ _ => held ≠ cell
  | .copying .. => True
  | .checking .. => True
  | .finished => True

theorem Spares.resume {handler : Handler} {cell : Nat} (h : handler.Spares cell)
    (files : FileReader) (desk : Desk) :
    (handler.resume files desk).rest.Spares cell ∧
      (handler.resume files desk).desk.place = desk.place ∧
      (handler.resume files desk).desk.cells.length = desk.cells.length ∧
      (handler.resume files desk).desk.cells[cell]? = desk.cells[cell]? := by
  cases handler with
  | arrived received => exact absurd h id
  | reading path uri document => exact absurd h id
  | changing uri held changes version =>
    have hcells (document : Document) : (desk.cells.set held document)[cell]? = desk.cells[cell]? :=
      List.getElem?_set_ne h
    unfold Handler.resume
    dsimp only
    split
    · exact ⟨trivial, rfl, rfl, rfl⟩
    · split
      · exact ⟨trivial, rfl, rfl, rfl⟩
      · exact ⟨trivial, rfl, List.length_set, hcells _⟩
  | copying uri held =>
    unfold Handler.resume
    dsimp only
    split <;> exact ⟨trivial, rfl, rfl, rfl⟩
  | checking uri held copy =>
    unfold Handler.resume
    dsimp only
    split <;> exact ⟨trivial, rfl, rfl, rfl⟩
  | finished => exact ⟨trivial, rfl, rfl, rfl⟩

end Handler

namespace Handlers

variable {files : FileReader} {handlers : Handlers} {uri : Url} {cell : Nat}
  {document : Document} {changes : List Change} {version : Int}

theorem run_cons (files : FileReader) (handlers : Handlers) (side : Side) (turns : List Side) :
    handlers.run files (side :: turns) = (handlers.turn files side).run files turns := rfl

theorem left_run (files : FileReader) (handlers : Handlers) (turns : List Side) :
    (handlers.run files turns).earlier.left ≤ handlers.earlier.left - turns.count .earlier ∧
      (handlers.run files turns).later.left ≤ handlers.later.left - turns.count .later := by
  induction turns generalizing handlers with
  | nil => exact ⟨Nat.le_refl _, Nat.le_refl _⟩
  | cons side turns ih =>
    obtain ⟨hearlier, hlater⟩ := ih (handlers.turn files side)
    rw [run_cons]
    cases side with
    | earlier =>
      have hleft := handlers.earlier.left_resume files handlers.desk
      have hcount : (Side.earlier :: turns).count .later = turns.count .later := by simp
      rw [List.count_cons_self, hcount]
      simp only [turn] at hearlier hlater ⊢
      omega
    | later =>
      have hleft := handlers.later.left_resume files handlers.desk
      have hcount : (Side.later :: turns).count .earlier = turns.count .earlier := by simp
      rw [List.count_cons_self, hcount]
      simp only [turn] at hearlier hlater ⊢
      omega

/-- **Neither handler keeps the other from its end.**  Four turns each are enough. -/
theorem areFinished_run (files : FileReader) (session : Session) (earlier later : ClientNotice)
    {turns : List Side} (hearlier : 4 ≤ turns.count .earlier) (hlater : 4 ≤ turns.count .later) :
    ((ofSession session earlier later).run files turns).areFinished := by
  have hleft := left_run files (ofSession session earlier later) turns
  have hstart : (ofSession session earlier later).earlier.left = 4 ∧
      (ofSession session earlier later).later.left = 4 := ⟨rfl, rfl⟩
  rw [areFinished, Bool.and_eq_true, Handler.isFinished_iff, Handler.isFinished_iff]
  omega

/-- A document is open, and nobody is going to change it. -/
structure Settled (key : Text) (cell : Nat) (document : Document) (handlers : Handlers) :
    Prop where
  place : handlers.desk.place key = some cell
  holds : handlers.desk.cells[cell]? = some document
  earlier : handlers.earlier.Spares cell
  later : handlers.later.Spares cell

theorem Settled.turn {key : Text} (h : Settled key cell document handlers) (files : FileReader)
    (side : Side) :
    Settled key cell document (handlers.turn files side) := by
  cases side with
  | earlier =>
    obtain ⟨hspares, hplace, -, hcell⟩ := h.earlier.resume files handlers.desk
    exact ⟨hplace ▸ h.place, hcell.trans h.holds, hspares, h.later⟩
  | later =>
    obtain ⟨hspares, hplace, -, hcell⟩ := h.later.resume files handlers.desk
    exact ⟨hplace ▸ h.place, hcell.trans h.holds, h.earlier, hspares⟩

theorem Settled.run {key : Text} (h : Settled key cell document handlers) (turns : List Side) :
    (handlers.run files turns).desk.document? key = some document := by
  induction turns generalizing handlers with
  | nil =>
    show handlers.desk.place key >>= (fun cell => handlers.desk.cells[cell]?) = some document
    rw [h.place]
    exact h.holds
  | cons side turns ih => exact ih (h.turn files side)

/-- A document is open, and the later handler is going to change it. -/
structure Awaiting (uri : Url) (cell : Nat) (document : Document) (changes : List Change)
    (version : Int) (handlers : Handlers) : Prop where
  place : handlers.desk.place uri.render = some cell
  holds : handlers.desk.cells[cell]? = some document
  earlier : handlers.earlier.Spares cell
  later : handlers.later = .arrived (.changed uri changes version) ∨
    handlers.later = .changing uri cell changes version

theorem Awaiting.turn (h : Awaiting uri cell document changes version handlers)
    (newer : document.version < version) (files : FileReader) (side : Side) :
    Awaiting uri cell document changes version (handlers.turn files side) ∨
      Settled uri.render cell ⟨changes.foldl Document.edit document.text, version⟩
        (handlers.turn files side) := by
  cases side with
  | earlier =>
    obtain ⟨hspares, hplace, -, hcell⟩ := h.earlier.resume files handlers.desk
    exact .inl ⟨hplace ▸ h.place, hcell.trans h.holds, hspares, h.later⟩
  | later =>
    obtain harrived | hchanging := h.later
    · left
      have hresume : handlers.later.resume files handlers.desk =
          ⟨handlers.desk, .changing uri cell changes version, []⟩ := by
        rw [harrived]
        simp only [Handler.resume, Handler.begin, h.place]
      simp only [Handlers.turn, hresume]
      exact ⟨h.place, h.holds, h.earlier, .inr rfl⟩
    · right
      have happly : document.apply changes version =
          .ok ⟨changes.foldl Document.edit document.text, version⟩ :=
        Document.apply_of_lt newer changes
      have hresume : handlers.later.resume files handlers.desk =
          ⟨handlers.desk.write cell ⟨changes.foldl Document.edit document.text, version⟩,
            .copying uri cell, []⟩ := by
        rw [hchanging]
        simp only [Handler.resume, h.holds, happly]
      simp only [Handlers.turn, hresume]
      exact ⟨h.place, Desk.getElem?_write h.place _, h.earlier, trivial⟩

theorem Awaiting.run (h : Awaiting uri cell document changes version handlers)
    (newer : document.version < version) {turns : List Side}
    (finished : (handlers.run files turns).areFinished) :
    (handlers.run files turns).desk.document? uri.render =
      some ⟨changes.foldl Document.edit document.text, version⟩ := by
  induction turns generalizing handlers with
  | nil =>
    -- The later handler cannot be done yet.
    obtain harrived | hchanging := h.later
    · simp [run, areFinished, harrived, Handler.isFinished] at finished
    · simp [run, areFinished, hchanging, Handler.isFinished] at finished
  | cons side turns ih =>
    obtain hawaiting | hsettled := h.turn newer files side
    · exact ih hawaiting finished
    · exact hsettled.run turns

/-- The later handler went past while the earlier one still waits to open its document. -/
structure Overtaken (path : List UInt8) (uri : Url) (document : Document)
    (handlers : Handlers) : Prop where
  earlier : handlers.earlier = .reading path uri document
  later : ∀ cell, handlers.desk.cells.length ≤ cell → handlers.later.Spares cell

theorem Overtaken.turn {path : List UInt8} (h : Overtaken path uri document handlers)
    (files : FileReader) (side : Side) :
    Overtaken path uri document (handlers.turn files side) ∨
      Settled uri.render handlers.desk.cells.length document (handlers.turn files side) := by
  cases side with
  | earlier =>
    right
    have hresume : handlers.earlier.resume files handlers.desk =
        Handler.insert (handlers.desk.adopt files path) uri document := by
      rw [h.earlier]
      rfl
    have hlength : (handlers.desk.adopt files path).cells.length = handlers.desk.cells.length := by
      rw [Desk.cells_adopt]
    simp only [Handlers.turn, hresume, Handler.insert]
    refine ⟨?_, ?_, trivial, h.later _ (Nat.le_refl _)⟩
    · show (if uri.render = uri.render then some (handlers.desk.adopt files path).cells.length
        else _) = _
      rw [if_pos rfl, hlength]
    · rw [← hlength]
      exact Desk.getElem?_insert uri.render document
  | later =>
    left
    refine ⟨h.earlier, fun cell hcell => ?_⟩
    have hlength : (handlers.later.resume files handlers.desk).desk.cells.length =
        handlers.desk.cells.length :=
      ((h.later _ (Nat.le_refl _)).resume files handlers.desk).2.2.1
    have hbound : handlers.desk.cells.length ≤ cell := hlength ▸ hcell
    exact ((h.later cell hbound).resume files handlers.desk).1

theorem Overtaken.run {path : List UInt8} (h : Overtaken path uri document handlers)
    {turns : List Side} (finished : (handlers.run files turns).areFinished) :
    (handlers.run files turns).desk.document? uri.render = some document := by
  induction turns generalizing handlers with
  | nil =>
    -- The earlier handler cannot be done yet.
    simp [run, areFinished, h.earlier, Handler.isFinished] at finished
  | cons side turns ih =>
    obtain hovertaken | hsettled := h.turn files side
    · exact ih hovertaken finished
    · exact hsettled.run turns

theorem awaiting_insert (desk : Desk) (sent : List ServerNotice) :
    Awaiting uri desk.cells.length document changes version
      ⟨(Handler.insert desk uri document).desk, (Handler.insert desk uri document).rest,
        .arrived (.changed uri changes version), sent⟩ where
  place := if_pos rfl
  holds := Desk.getElem?_insert uri.render document
  earlier := trivial
  later := .inl rfl

theorem overtaken_later (files : FileReader) (desk : Desk) (path : List UInt8)
    (sent : List ServerNotice) :
    Overtaken path uri document
      (turn files ⟨desk, .reading path uri document, .arrived (.changed uri changes version), sent⟩
        .later) := by
  cases hplace : desk.place uri.render with
  | none =>
    have hbegin : Handler.begin desk (.changed uri changes version) = ⟨desk, .finished, []⟩ := by
      simp only [Handler.begin, hplace]
    simp only [turn, Handler.resume, hbegin]
    exact ⟨rfl, fun cell hcell => trivial⟩
  | some held =>
    have hinside : held < desk.cells.length := desk.inside _ held hplace
    have hbegin : Handler.begin desk (.changed uri changes version) =
        ⟨desk, .changing uri held changes version, []⟩ := by
      simp only [Handler.begin, hplace]
    simp only [turn, Handler.resume, hbegin]
    exact ⟨rfl, fun cell hcell => Nat.ne_of_lt (Nat.lt_of_lt_of_le hinside hcell)⟩

theorem turn_earlier_ofSession (files : FileReader) (session : Session)
    (received next : ClientNotice) :
    (ofSession session received next).turn files .earlier =
      ⟨(Handler.begin (Desk.ofSession session) received).desk,
        (Handler.begin (Desk.ofSession session) received).rest, .arrived next,
        (Handler.begin (Desk.ofSession session) received).sent⟩ := rfl

end Handlers

theorem Session.opened_changed_run (files : FileReader) (session : Session) (uri : Url)
    (document : Document) (changes : List Change) (version : Int)
    (newer : document.version < version) (turns : List Side)
    (finished : ((Handlers.ofSession session (.opened uri document)
      (.changed uri changes version)).run files (.earlier :: turns)).areFinished) :
    ((Handlers.ofSession session (.opened uri document)
      (.changed uri changes version)).run files (.earlier :: turns)).desk.document? uri.render =
        if session.pathBeside? uri = none ∨ turns.head? = some .earlier then
          some ⟨changes.foldl Document.edit document.text, version⟩
        else some document := by
  have hbeside : (Desk.ofSession session).pathBeside? uri = session.pathBeside? uri :=
    (Desk.shows_ofSession session).pathBeside? uri
  rw [Handlers.run_cons, Handlers.turn_earlier_ofSession] at finished ⊢
  -- With its first turn the opening is past its wait, or it waits.
  cases hpath : session.pathBeside? uri with
  | none =>
    have hbegin : Handler.begin (Desk.ofSession session) (.opened uri document) =
        Handler.insert (Desk.ofSession session) uri document := by
      simp only [Handler.begin, hbeside, hpath]
    rw [hbegin] at finished ⊢
    rw [if_pos (.inl rfl)]
    exact (Handlers.awaiting_insert _ _).run newer finished
  | some path =>
    have hbegin : Handler.begin (Desk.ofSession session) (.opened uri document) =
        ⟨Desk.ofSession session, .reading path uri document, []⟩ := by
      simp only [Handler.begin, hbeside, hpath]
    rw [hbegin] at finished ⊢
    cases turns with
    | nil => simp [Handlers.run, Handlers.areFinished, Handler.isFinished] at finished
    | cons side turns =>
      rw [Handlers.run_cons] at finished ⊢
      cases side with
      | earlier =>
        rw [if_pos (.inr rfl)]
        exact (Handlers.awaiting_insert ((Desk.ofSession session).adopt files path) _).run newer
          finished
      | later =>
        rw [if_neg (by simp)]
        exact (Handlers.overtaken_later files (Desk.ofSession session) path _).run finished

section Runs

variable {working : List FileName} {files : FileTree} {settings : Settings}
  {history : List Step} {opening change : Step} {uri : Url} {document : Document}
  {changes : List Change} {version : Int}

theorem served_opened (served : Served history)
    (opened : opening.notice? = some (.opened uri document)) : Served (history ++ [opening]) := by
  obtain ⟨params, rfl, -⟩ := Step.notice?_eq_opened.1 opened
  exact served_concat.2 (.inl ⟨served, rfl, rfl⟩)

theorem World.get?_opened_changed (served : Served history)
    (opened : opening.notice? = some (.opened uri document))
    (changed : change.notice? = some (.changed uri changes version))
    (newer : document.version < version) :
    (documentsAfter working files settings (history ++ [opening, change])).get? uri.render =
      some ⟨changes.foldl Document.edit document.text, version⟩ := by
  have hopened : (documentsAfter working files settings (history ++ [opening])).get? uri.render =
      some document := by
    rw [get?_documentsAfter_concat, if_pos served, opened]
    simp [ClientNotice.track]
  rw [List.append_cons, get?_documentsAfter_concat, if_pos (served_opened served opened), changed,
    hopened]
  simp [ClientNotice.track, ClientNotice.follow, Document.apply_of_lt newer]

/-- **An edit is kept unless it overtakes the opening.**  In a session that is served a document
is opened and then changed.  The two handlers take turns, that of the opening first; four turns
each are enough for both to be done.  When they are, and the opening had no framework file to
wait for or went on as soon as it had begun, the document is the changed one, as if the second
message had come when the first was dealt with.  Otherwise the change went on first and is lost:
the document is the one that was opened. -/
theorem edit_kept_unless_overtaking (working : List FileName) (files : FileTree)
    (settings : Settings) (history : List Step) (served : Served history)
    (opening change : Step) (uri : Url) (document : Document) (changes : List Change)
    (version : Int) (opened : opening.notice? = some (.opened uri document))
    (changed : change.notice? = some (.changed uri changes version))
    (newer : document.version < version) (turns : List Side) :
    let world := World.reached working files settings history
    let handlers := (Handlers.ofSession world.session (.opened uri document)
      (.changed uri changes version)).run (world.files.reader working) (.earlier :: turns)
    (3 ≤ turns.count .earlier → 4 ≤ turns.count .later → handlers.areFinished) ∧
      (handlers.areFinished →
        (World.documentsAfter working files settings (history ++ [opening, change])).get?
            uri.render = some ⟨changes.foldl Document.edit document.text, version⟩ ∧
          handlers.desk.document? uri.render =
            if world.session.pathBeside? uri = none ∨ turns.head? = some .earlier then
              some ⟨changes.foldl Document.edit document.text, version⟩
            else some document) := by
  intro world handlers
  constructor
  · intro hearlier hlater
    have hfirst : (Side.earlier :: turns).count .earlier = turns.count .earlier + 1 :=
      List.count_cons_self
    have hothers : (Side.earlier :: turns).count .later = turns.count .later := by simp
    apply Handlers.areFinished_run <;> omega
  · intro finished
    exact ⟨World.get?_opened_changed served opened changed newer,
      Session.opened_changed_run _ _ uri document changes version newer turns finished⟩

end Runs

/-! ## A run

A framework file lies beside the document, no table has been provided yet, and the change is
heeded while the opening waits for the file. -/

namespace Sample

def script : Url := ⟨"file".toList, some ⟨[], [], none⟩, "/p/a.dawn".toList, none, none⟩

def editScript : Step :=
  .message ⟨none, "textDocument/didChange".toList, some (.object [
    ("textDocument", .object [("uri", .lit "file:///p/a.dawn"), ("version", .int 2)]),
    ("contentChanges", .arr [.object [("text", .lit "walk")]])])⟩

def overtaking : List Side :=
  [.later, .earlier, .earlier, .earlier, .later, .later, .later]

end Sample

open Sample in
theorem edit_kept_unless_overtaking_lost :
    Served [start, lay] ∧
      openScript.notice? = some (.opened script ⟨"jump".toList, 1⟩) ∧
      editScript.notice? = some (.changed script [⟨none, "walk".toList⟩] 2) ∧
      ((Handlers.ofSession
          (World.reached [] FileTree.empty ⟨none, .exact, .off⟩ [start, lay]).session
          (.opened script ⟨"jump".toList, 1⟩) (.changed script [⟨none, "walk".toList⟩] 2)).run
        ((World.reached [] FileTree.empty ⟨none, .exact, .off⟩ [start, lay]).files.reader [])
        (.earlier :: overtaking)).areFinished = true ∧
      (World.documentsAfter [] FileTree.empty ⟨none, .exact, .off⟩
        ([start, lay] ++ [openScript, editScript])).get? script.render =
          some ⟨"walk".toList, 2⟩ ∧
      ((Handlers.ofSession
          (World.reached [] FileTree.empty ⟨none, .exact, .off⟩ [start, lay]).session
          (.opened script ⟨"jump".toList, 1⟩) (.changed script [⟨none, "walk".toList⟩] 2)).run
        ((World.reached [] FileTree.empty ⟨none, .exact, .off⟩ [start, lay]).files.reader [])
        (.earlier :: overtaking)).desk.document? script.render = some ⟨"jump".toList, 1⟩ := by
  have hserved : Served [start, lay] := by decide +kernel
  have hopened : openScript.notice? = some (.opened script ⟨"jump".toList, 1⟩) := by rfl
  have hchanged : editScript.notice? = some (.changed script [⟨none, "walk".toList⟩] 2) := by rfl
  have hwaits : ¬ ((World.reached [] FileTree.empty ⟨none, .exact, .off⟩
      [start, lay]).session.pathBeside? script = none ∨ overtaking.head? = some .earlier) := by
    decide +kernel
  obtain ⟨hends, hleaves⟩ := edit_kept_unless_overtaking [] FileTree.empty ⟨none, .exact, .off⟩
    [start, lay] hserved openScript editScript script ⟨"jump".toList, 1⟩
    [⟨none, "walk".toList⟩] 2 hopened hchanged (by decide) overtaking
  have hfinished := hends (by decide) (by decide)
  obtain ⟨hkept, hlost⟩ := hleaves hfinished
  exact ⟨hserved, hopened, hchanged, hfinished, hkept, hlost.trans (if_neg hwaits)⟩

/-- Not in every order of their turns do the two handlers leave what the two messages leave one
after the other. -/
theorem edit_lost_while_opening :
    ¬ ∀ (working : List FileName) (files : FileTree) (settings : Settings) (history : List Step)
      (opening change : Step) (uri : Url) (document : Document) (changes : List Change)
      (version : Int) (turns : List Side),
      Served history → opening.notice? = some (.opened uri document) →
      change.notice? = some (.changed uri changes version) → document.version < version →
      let world := World.reached working files settings history
      let handlers := (Handlers.ofSession world.session (.opened uri document)
        (.changed uri changes version)).run (world.files.reader working) (.earlier :: turns)
      handlers.areFinished →
        handlers.desk.document? uri.render =
          (World.documentsAfter working files settings (history ++ [opening, change])).get?
            uri.render := by
  intro h
  have hlost := h [] FileTree.empty ⟨none, .exact, .off⟩ [Sample.start, Sample.lay]
    Sample.openScript Sample.editScript Sample.script ⟨"jump".toList, 1⟩
    [⟨none, "walk".toList⟩] 2 Sample.overtaking (by decide +kernel) rfl rfl (by decide)
    (by decide +kernel)
  exact absurd hlost (by decide +kernel)

end DawnServer
