import DawnServer.Proofs.Session.FillOnce
import DawnServer.Proofs.Session.Publications

/-!
# Documents do not interfere

Once the framework table of a session is filled, its documents have nothing to do with each
other.  Two runs are compared: one takes every step, the other leaves out the messages that
name a document other than the one under a URI.  Both keep the same settings, phase, table and
document under that URI (`Session.Alike`), so every step that both take shows the client the
same, and the document comes out the same (`documents_do_not_interfere`).
-/

namespace DawnServer

/-! ## The document that a message names -/

def ClientNotice.document? : ClientNotice → Option Url
  | .opened uri _ | .changed uri _ _ | .closed uri => some uri
  | _ => none

def Query.document? : Query → Option Url
  | .complete uri | .tokens uri => some uri
  | _ => none

/-- A member of a record that comes first where the record is an array. -/
def Json.first? (name : String) : Json → Option Json
  | .obj members => lookup? name.toList members
  | .arr (item :: _) => some item
  | _ => none

namespace Message

/-- The URI in the parameters of a message about a text document, whether or not the rest of
them can be read and the method is served. -/
def writtenUri? (message : Message) : Option Url :=
  if Text.startsWith message.method "textDocument/".toList then
    message.params >>= Json.first? "textDocument" >>= Json.first? "uri" >>= Url.ofJson?
  else none

def readUri? (message : Message) : Option Url :=
  match Method.ofName message.method with
  | .notice read => message.params >>= read >>= ClientNotice.document?
  | .query read => message.params >>= read >>= Query.document?
  | _ => none

/-- The document that a message names: the one that the server reads, or else the one that is
written in it. -/
def document? (message : Message) : Option Url := message.readUri?.or message.writtenUri?

end Message

def Step.isElsewhere (key : Text) : Step → Bool
  | .message received => received.document?.any (·.render ≠ key)
  | _ => false

theorem Step.isElsewhere_message {key : Text} {received : Message} :
    (Step.message received).isElsewhere key = true ↔
      ∃ uri, received.document? = some uri ∧ uri.render ≠ key := by
  simp [isElsewhere, Option.any_eq_true]

namespace Message

variable {received : Message}

theorem writtenUri?_eq_none {method : Text} {id : Option MessageId} {params : Option Json}
    (h : Text.startsWith method "textDocument/".toList = false) :
    (Message.mk id method params).writtenUri? = none := by
  rw [writtenUri?, h, if_neg Bool.false_ne_true]

theorem document?_of_notice? {notice : ClientNotice} (h : received.notice? = some notice) :
    received.document? = notice.document? := by
  have hstep : (Step.message received).notice? = some notice := h
  obtain ⟨params, hreceived, hread⟩ := Step.notice?_eq_some.1 hstep
  cases hreceived
  obtain ⟨read, hreader, hnotice⟩ := Option.bind_eq_some_iff.1 hread
  have hmethod : Method.ofName notice.methodName.toList = .notice read :=
    Method.ofName_eq_notice.2 hreader
  have hreadUri : (Message.mk none notice.methodName.toList (some params)).readUri? =
      notice.document? := by
    simp only [readUri?, hmethod, Option.bind_eq_bind, Option.bind_some, hnotice]
  rw [document?, hreadUri]
  cases notice with
  | ready => exact writtenUri?_eq_none (by decide +kernel)
  | framework table =>
    have hname : Text.startsWith "dawn/framework".toList "textDocument/".toList = false := by
      decide +kernel
    exact writtenUri?_eq_none hname
  | _ => rfl

theorem document?_of_query {read : Json → Option Query} {query : Query} {uri : Url}
    (hmethod : Method.ofName received.method = .query read)
    (hread : received.params >>= read = some query) (habout : query.document? = some uri) :
    received.document? = some uri := by
  have hreadUri : received.readUri? = some uri := by
    simp only [readUri?, hmethod, hread, Option.bind_eq_bind, Option.bind_some, habout]
  rw [document?, hreadUri]
  rfl

theorem steers_nothing_of_document? {uri : Url} (h : received.document? = some uri) :
    (Step.message received).leaves = false ∧ (Step.message received).opens = false ∧
      (Step.message received).shutsDown = false := by
  obtain ⟨id, name, params⟩ := received
  rw [Step.leaves_message, Step.opens_message, Step.shutsDown_message]
  -- The methods that steer carry no document, and their names are not those of documents.
  cases hmethod : Method.ofName name with
  | exit =>
    rw [document?, readUri?, hmethod, Method.ofName_eq_exit.1 hmethod,
      writtenUri?_eq_none (by decide +kernel)] at h
    cases h
  | introduce =>
    rw [document?, readUri?, hmethod, Method.ofName_eq_introduce.1 hmethod,
      writtenUri?_eq_none (by decide +kernel)] at h
    cases h
  | shutDown =>
    rw [document?, readUri?, hmethod, Method.ofName_eq_shutDown.1 hmethod,
      writtenUri?_eq_none (by decide +kernel)] at h
    cases h
  | _ => exact ⟨rfl, rfl, rfl⟩

end Message

/-! ## Sessions that agree on one document -/

theorem ClientNotice.track_of_elsewhere {key : Text} {notice : ClientNotice} {uri : Url}
    (habout : notice.document? = some uri) (hkey : uri.render ≠ key) (held : Option Document) :
    notice.track key held = held := by
  cases notice with
  | changed other changes version =>
    cases habout
    cases held <;> simp [track, follow, hkey]
  | ready => cases habout
  | framework table => cases habout
  | _ =>
    cases habout
    simp [track, hkey]

namespace Session

/-- Two sessions agree on the document under a URI and on all that belongs to no document,
with a framework table that is filled. -/
structure Alike (key : Text) (session other : Session) : Prop where
  settings : session.settings = other.settings
  phase : session.phase = other.phase
  filled : session.registry.isFilled
  registry : session.registry = other.registry
  document : session.documents.get? key = other.documents.get? key

variable {key : Text} {session other : Session} {files files' : FileReader}

theorem heed_document (files : FileReader) (session : Session) (received : Option ClientNotice)
    (key : Text) :
    (session.heed files received).documents.get? key =
      if session.phase = .running then
        received.toList.foldl (fun held notice => notice.track key held)
          (session.documents.get? key)
      else session.documents.get? key := by
  by_cases hrunning : session.phase = .running
  · rw [if_pos hrunning]
    cases received with
    | none => rw [heed_none]; rfl
    | some notice =>
      rw [heed_of_running hrunning]
      exact notice_documents files session notice key
  · rw [if_neg hrunning, heed_of_ne hrunning]

namespace Alike

theorem withPhase (h : Alike key session other) (phase : Phase) :
    Alike key { session with phase } { other with phase } :=
  ⟨h.settings, rfl, h.filled, h.registry, h.document⟩

theorem heed (h : Alike key session other) (received : Option ClientNotice) :
    Alike key (session.heed files received) (other.heed files' received) := by
  have hfilled : other.registry.isFilled := h.registry ▸ h.filled
  have hregistry : (session.heed files received).registry = session.registry :=
    heed_registry_of_isFilled h.filled received
  have hregistry' : (other.heed files' received).registry = other.registry :=
    heed_registry_of_isFilled hfilled received
  refine ⟨?_, ?_, ?_, ?_, ?_⟩
  · rw [(heed_frame files session received).1, (heed_frame files' other received).1, h.settings]
  · rw [(heed_frame files session received).2, (heed_frame files' other received).2, h.phase]
  · rw [hregistry]
    exact h.filled
  · rw [hregistry, hregistry', h.registry]
  · rw [heed_document, heed_document, h.phase, h.document]

theorem held (h : Alike key session other) {uri : Url} (hkey : uri.render = key) :
    session.documents.get? uri.render = other.documents.get? uri.render := by
  rw [hkey]
  exact h.document

theorem heed_elsewhere (h : Alike key session other) {received : Option ClientNotice}
    (helsewhere : ∀ notice ∈ received, ∃ uri, notice.document? = some uri ∧ uri.render ≠ key) :
    Alike key (session.heed files received) other := by
  have hregistry : (session.heed files received).registry = session.registry :=
    heed_registry_of_isFilled h.filled received
  refine ⟨?_, ?_, ?_, ?_, ?_⟩
  · rw [(heed_frame files session received).1, h.settings]
  · rw [(heed_frame files session received).2, h.phase]
  · rw [hregistry]
    exact h.filled
  · rw [hregistry, h.registry]
  · rw [heed_document, ← h.document]
    cases received with
    | none => exact ite_self _
    | some notice =>
      obtain ⟨uri, habout, hkey⟩ := helsewhere notice rfl
      have hkept := ClientNotice.track_of_elsewhere habout hkey (session.documents.get? key)
      simp [hkept]

theorem sends (h : Alike key session other) {received : Option ClientNotice}
    (hhere : ∀ notice ∈ received, ∀ uri, notice.document? = some uri → uri.render = key) :
    session.sends files received = other.sends files' received := by
  unfold Session.sends
  rw [h.phase]
  cases other.phase with
  | running =>
    cases received with
    | none => rfl
    | some notice =>
      have hkey := hhere notice rfl
      cases notice with
      | opened uri document =>
        simp only [notice, openDocument, store, diagnosticsOf, adoptBeside_settings, h.settings]
      | changed uri changes version =>
        have hheld : session.documents.get? uri.render = other.documents.get? uri.render :=
          h.held (hkey uri rfl)
        simp only [notice, changeDocument, hheld]
        cases other.documents.get? uri.render with
        | none => rfl
        | some document =>
          cases happly : document.apply changes version <;>
            simp only [happly, store, diagnosticsOf, h.settings]
      | _ => rfl
  | _ => rfl

theorem answer (h : Alike key session other) {query : Query}
    (hhere : ∀ uri, query.document? = some uri → uri.render = key) :
    session.answer query = other.answer query := by
  cases query with
  | complete uri =>
    have hheld : session.documents.get? uri.render = other.documents.get? uri.render :=
      h.held (hhere uri rfl)
    simp only [Session.answer, completions?, hheld, h.registry]
  | tokens uri =>
    have hheld : session.documents.get? uri.render = other.documents.get? uri.render :=
      h.held (hhere uri rfl)
    simp only [Session.answer, tokens?, hheld, h.registry, h.settings]
  | _ => rfl

theorem turn? (h : Alike key session other) {received : Message} {turn turn' : Turn}
    (hhere : ∀ uri, received.document? = some uri → uri.render = key)
    (hturn : session.turn? files received = some turn)
    (hturn' : other.turn? files' received = some turn') :
    turn.reply = turn'.reply ∧ turn.sent = turn'.sent := by
  constructor
  · obtain ⟨id, name, params⟩ := received
    unfold Session.turn? at hturn hturn'
    simp only [Option.ite_none_left_eq_some, Option.some.injEq] at hturn hturn'
    obtain ⟨-, rfl⟩ := hturn
    obtain ⟨-, rfl⟩ := hturn'
    -- Apart from the answer to a request, the reply rests on the message and the phase.
    cases hmethod : Method.ofName name with
    | exit => rfl
    | introduce =>
      simp only [introduce, h.phase]
      split
      · split <;> rfl
      all_goals rfl
    | shutDown =>
      simp only [shutDown, h.phase]
      split <;> rfl
    | notice read =>
      simp only [notified, h.phase]
      split
      · split <;> rfl
      all_goals rfl
    | query read =>
      simp only [asked, h.phase]
      cases other.phase with
      | running =>
        cases hread : params >>= read with
        | none => rfl
        | some query =>
          have hanswer : session.answer query = other.answer query :=
            h.answer fun uri habout => hhere uri (Message.document?_of_query hmethod hread habout)
          simp only [replying, hanswer]
      | _ => rfl
    | idle =>
      simp only [idle, h.phase]
      split <;> rfl
    | unknown =>
      simp only [unknown]
      split <;> rfl
  · rw [turn?_sent hturn, turn?_sent hturn']
    apply h.sends
    intro notice hnotice uri habout
    exact hhere uri ((Message.document?_of_notice? hnotice).trans habout)

end Alike

end Session

/-! ## Runs -/

/-- What the client sees of a step. -/
inductive Sight where
  | silent
  | turn (reply : Option Reply) (sent : List ServerNotice)
  | ended

def Outcome.sight : Outcome → Sight
  | .silent => .silent
  | .turn taken => .turn taken.reply taken.sent
  | .ended => .ended

def Step.here (key : Text) (steps : List Step) : List Step :=
  steps.filter fun step => !step.isElsewhere key

namespace World

/-- What the client sees, in a run of all the steps, of those among them that do not name a
document other than the one under a URI. -/
def sightsHere (working : List FileName) (key : Text) (world : World) (steps : List Step) :
    List Sight :=
  ((steps.zip (world.run working steps).2).filter fun (step, _) => !step.isElsewhere key).map
    fun (_, outcome) => outcome.sight

variable (working : List FileName) {key : Text} {world other : World}

theorem alike_of_elsewhere (h : world.session.Alike key other.session) {step : Step}
    (helsewhere : step.isElsewhere key = true) :
    (world.step working step).1.session.Alike key other.session := by
  cases step with
  | message received =>
    obtain ⟨uri, habout, hkey⟩ := Step.isElsewhere_message.1 helsewhere
    obtain ⟨hleaves, hopens, hshut⟩ := Message.steers_nothing_of_document? habout
    have hheeded : (world.session.heed (world.files.reader working) received.notice?).Alike key
        other.session := by
      apply h.heed_elsewhere
      intro notice hnotice
      exact ⟨uri, (Message.document?_of_notice? hnotice).symm.trans habout, hkey⟩
    have hphase := (Session.heed_frame (world.files.reader working) world.session
      received.notice?).2
    rw [step_session, Phase.next_of_passive hleaves hopens hshut, ← hphase]
    exact hheeded
  | write entries => cases helsewhere
  | remove path => cases helsewhere

theorem alike_of_here (h : world.session.Alike key other.session) {step : Step}
    (hhere : step.isElsewhere key = false) :
    (world.step working step).2.sight = (other.step working step).2.sight ∧
      (world.step working step).1.session.Alike key (other.step working step).1.session := by
  constructor
  · unfold World.step
    rw [h.phase]
    split
    · rfl
    · next hended =>
      cases step with
      | message received =>
        have habout : ∀ uri, received.document? = some uri → uri.render = key := by
          intro uri huri
          by_contra hkey
          rw [Step.isElsewhere_message.2 ⟨uri, huri, hkey⟩] at hhere
          cases hhere
        obtain ⟨turn, hturn, -⟩ :=
          Session.exists_turn? (world.files.reader working) (h.phase ▸ hended) received
        obtain ⟨turn', hturn', -⟩ :=
          Session.exists_turn? (other.files.reader working) hended received
        obtain ⟨hreply, hsent⟩ := h.turn? habout hturn hturn'
        simp only [hturn, hturn', Outcome.sight, hreply, hsent]
      | _ => rfl
  · rw [step_session, step_session, h.phase]
    exact (h.heed step.notice?).withPhase _

/-- **Two runs side by side.**  The steps that both take show the same, and the sessions come
out alike. -/
theorem run_here (h : world.session.Alike key other.session) (steps : List Step) :
    world.sightsHere working key steps =
        (other.run working (Step.here key steps)).2.map Outcome.sight ∧
      (world.run working steps).1.session.Alike key
        (other.run working (Step.here key steps)).1.session := by
  induction steps generalizing world other with
  | nil => exact ⟨rfl, h⟩
  | cons step steps ih =>
    cases helsewhere : step.isElsewhere key with
    | true =>
      have hkept : Step.here key (step :: steps) = Step.here key steps := by
        simp [Step.here, helsewhere]
      obtain ⟨hsights, halike⟩ := ih (alike_of_elsewhere working h helsewhere)
      rw [hkept, ← hsights]
      exact ⟨by simp [sightsHere, run, helsewhere], halike⟩
    | false =>
      have hkept : Step.here key (step :: steps) = step :: Step.here key steps := by
        simp [Step.here, helsewhere]
      obtain ⟨hsight, hnext⟩ := alike_of_here working h helsewhere
      obtain ⟨hsights, halike⟩ := ih hnext
      rw [hkept]
      refine ⟨?_, halike⟩
      simp only [run, List.map_cons, ← hsights, ← hsight]
      simp [sightsHere, run, helsewhere]

end World

/-- **Documents do not interfere.**  In a session whose framework table is filled, leaving out
of the further steps every message that names a document other than the one under a URI changes
nothing for the others: each is answered as before, the server sends the same meanwhile, and
the document comes out the same. -/
theorem documents_do_not_interfere (working : List FileName) (files : FileTree)
    (settings : Settings) (history : List Step) (uri : Url) (steps : List Step)
    (hfilled : (World.registryAfter working files settings history).isFilled) :
    (World.reached working files settings history).sightsHere working uri.render steps =
        ((World.reached working files settings history).run working
          (Step.here uri.render steps)).2.map Outcome.sight ∧
      (World.documentsAfter working files settings (history ++ steps)).get? uri.render =
        (World.documentsAfter working files settings
          (history ++ Step.here uri.render steps)).get? uri.render := by
  have halike : (World.reached working files settings history).session.Alike uri.render
      (World.reached working files settings history).session :=
    ⟨rfl, rfl, hfilled, rfl, rfl⟩
  obtain ⟨hsights, hafter⟩ := World.run_here working halike steps
  refine ⟨hsights, ?_⟩
  unfold World.documentsAfter
  rw [World.reached_append, World.reached_append]
  exact hafter.document

open Sample Reopening in
theorem documents_do_not_interfere_beside :
    (World.registryAfter [] FileTree.empty ⟨none, .exact, .off⟩ [start, send]).isFilled ∧
      (World.reached [] FileTree.empty ⟨none, .exact, .off⟩ [start, send]).sightsHere [] uri.render
          [opening 1 "old", openScript, changing 2 "new"] =
        ((World.reached [] FileTree.empty ⟨none, .exact, .off⟩ [start, send]).run []
          [opening 1 "old", changing 2 "new"]).2.map Outcome.sight ∧
      (World.documentsAfter [] FileTree.empty ⟨none, .exact, .off⟩
        ([start, send] ++ [opening 1 "old", openScript, changing 2 "new"])).get? uri.render =
          some ⟨"new".toList, 2⟩ := by
  have hfilled : (World.registryAfter [] FileTree.empty ⟨none, .exact, .off⟩
      [start, send]).isFilled := by decide +kernel
  have hhere : Step.here uri.render [opening 1 "old", openScript, changing 2 "new"] =
      [opening 1 "old", changing 2 "new"] := by
    have hopening : (opening 1 "old").isElsewhere uri.render = false := by decide +kernel
    have hscript : openScript.isElsewhere uri.render = true := by decide +kernel
    have hchanging : (changing 2 "new").isElsewhere uri.render = false := by decide +kernel
    simp [Step.here, hopening, hscript, hchanging]
  obtain ⟨hsights, hdocument⟩ := documents_do_not_interfere [] FileTree.empty
    ⟨none, .exact, .off⟩ [start, send] uri [opening 1 "old", openScript, changing 2 "new"] hfilled
  rw [hhere] at hsights hdocument
  refine ⟨hfilled, hsights, ?_⟩
  rw [hdocument]
  decide +kernel

end DawnServer
