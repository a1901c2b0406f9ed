import DawnServer.Proofs.Session.OpenDocuments

/-!
# The diagnostics that a client holds

The server publishes diagnostics when a document is opened, changed or closed, once each time
and at no other (`Publishes`, `World.publishedAfter_step`).  What a client received last for a
URI therefore tells the state of its document (`World.lastFor_published`), and the versions that
come while a document stays open increase (`World.versions_of_life`).
-/

namespace DawnServer

/-- Diagnostics as they are sent for a URI, with a version if its document is open. -/
structure Publication where
  uri : Text
  version : Option Int
  list : List Diagnostic
  deriving Repr, DecidableEq

namespace Publication

/-- What is to be known about a URI: the diagnostics of its document with their version, or
that there are none if it is not open. -/
def of (mode : DiagnosticsMode) (key : Text) : Option Document → Publication
  | some document => ⟨key, some document.version, mode.diagnose document.text⟩
  | none => ⟨key, none, []⟩

end Publication

def ServerNotice.publication? : ServerNotice → Option Publication
  | .diagnostics uri version list => some ⟨uri, version, list⟩
  | .log _ => none

def Outcome.publications : Outcome → List Publication
  | .turn taken => taken.sent.filterMap ServerNotice.publication?
  | _ => []

def publishedFor (key : Text) (row : List Publication) : List Publication :=
  row.filter (·.uri = key)

def lastFor (key : Text) (row : List Publication) : Option Publication :=
  (publishedFor key row).getLast?

theorem publishedFor_append (key : Text) (row later : List Publication) :
    publishedFor key (row ++ later) = publishedFor key row ++ publishedFor key later :=
  List.filter_append row later

/-- The step that follows a history publishes diagnostics, given the documents that are open:
it opens a document, it brings a newer version of one, or it closes one, open or not. -/
inductive Publishes (mode : DiagnosticsMode) (history : List Step) (documents : DocumentStore)
    (step : Step) : Publication → Prop
  | opened {uri : Url} {document : Document} (served : Served history)
      (asks : step.notice? = some (.opened uri document)) :
      Publishes mode history documents step
        ⟨uri.render, some document.version, mode.diagnose document.text⟩
  | changed {uri : Url} {changes : List Change} {version : Int} {document : Document}
      (served : Served history) (asks : step.notice? = some (.changed uri changes version))
      (held : documents.get? uri.render = some document) (newer : document.version < version) :
      Publishes mode history documents step
        ⟨uri.render, some version, mode.diagnose (changes.foldl Document.edit document.text)⟩
  | closed {uri : Url} (served : Served history) (asks : step.notice? = some (.closed uri)) :
      Publishes mode history documents step ⟨uri.render, none, []⟩

/-! ## One notification -/

theorem Document.apply_of_lt {document : Document} {version : Int}
    (h : document.version < version) (changes : List Change) :
    document.apply changes version = .ok ⟨changes.foldl edit document.text, version⟩ :=
  if_neg (not_le.2 h)

theorem Document.apply_of_le {document : Document} {version : Int}
    (h : version ≤ document.version) (changes : List Change) :
    document.apply changes version = .error ⟨version, document.version⟩ :=
  if_pos h

namespace ClientNotice

def publication? (mode : DiagnosticsMode) (documents : DocumentStore) :
    ClientNotice → Option Publication
  | .opened uri document => some (.of mode uri.render (some document))
  | .changed uri changes version =>
    match documents.get? uri.render with
    | none => none
    | some document =>
      match document.apply changes version with
      | .error _ => none
      | .ok next => some (.of mode uri.render (some next))
  | .closed uri => some (.of mode uri.render none)
  | _ => none

variable {mode : DiagnosticsMode} {documents : DocumentStore}

theorem publication?_changed_eq_some {uri : Url} {changes : List Change} {version : Int}
    {sent : Publication} :
    publication? mode documents (.changed uri changes version) = some sent ↔
      ∃ document, documents.get? uri.render = some document ∧ document.version < version ∧
        sent = ⟨uri.render, some version,
          mode.diagnose (changes.foldl Document.edit document.text)⟩ := by
  cases hheld : documents.get? uri.render with
  | none => simp [publication?, hheld]
  | some document =>
    rcases lt_or_ge document.version version with hnewer | hstale
    · simp [publication?, hheld, Document.apply_of_lt hnewer, hnewer, Publication.of, eq_comm]
    · simp [publication?, hheld, Document.apply_of_le hstale, not_lt.2 hstale]

/-- **What a notification means for one URI.**  Either it has no part in it and publishes
nothing for it; or it publishes, once, what is to be known afterwards, and has then opened or
closed the document or brought a newer version of it. -/
theorem publication?_cases (mode : DiagnosticsMode) (documents : DocumentStore) (key : Text)
    (received : ClientNotice) :
    (publishedFor key (received.publication? mode documents).toList = [] ∧
      track key (documents.get? key) received = documents.get? key) ∨
    (publishedFor key (received.publication? mode documents).toList =
        [.of mode key (track key (documents.get? key) received)] ∧
      (received.decides key = true ∨
        ∃ held newer, documents.get? key = some held ∧
          track key (documents.get? key) received = some newer ∧
          held.version < newer.version)) := by
  cases received with
  | opened uri document =>
    by_cases hkey : uri.render = key
    · exact .inr (by simp [decides, publication?, publishedFor, track, Publication.of, hkey])
    · exact .inl (by simp [publication?, publishedFor, track, Publication.of, hkey])
  | closed uri =>
    by_cases hkey : uri.render = key
    · exact .inr (by simp [decides, publication?, publishedFor, track, Publication.of, hkey])
    · exact .inl (by simp [publication?, publishedFor, track, Publication.of, hkey])
  | changed uri changes version =>
    by_cases hkey : uri.render = key
    · subst hkey
      cases hheld : documents.get? uri.render with
      | none => exact .inl (by simp [publication?, publishedFor, track, hheld])
      | some document =>
        rcases lt_or_ge document.version version with hnewer | hstale
        · refine .inr ?_
          simp [publication?, publishedFor, track, follow, hheld, Publication.of,
            Document.apply_of_lt hnewer, hnewer]
        · refine .inl ?_
          simp [publication?, publishedFor, track, follow, hheld, Document.apply_of_le hstale]
    · -- What is published about another document does not count here.
      refine .inl ⟨?_, by simp [track, follow, hkey]⟩
      cases hsent : publication? mode documents (.changed uri changes version) with
      | none => rfl
      | some sent =>
        obtain ⟨document, -, -, rfl⟩ := publication?_changed_eq_some.1 hsent
        simp [publishedFor, hkey]
  | _ => exact .inl (by simp [publication?, publishedFor, track, follow])

end ClientNotice

/-! ## One turn -/

namespace Session

theorem adoptBeside_settings (files : FileReader) (uri : Url) (session : Session) :
    (adoptBeside files uri session).settings = session.settings := by
  unfold adoptBeside
  repeat' split
  all_goals rfl

theorem notice_publications (files : FileReader) (session : Session) (received : ClientNotice) :
    (session.notice files received).2.filterMap ServerNotice.publication? =
      (received.publication? session.settings.diagnostics session.documents).toList := by
  cases received with
  | opened uri document =>
    simp only [notice, openDocument, store, diagnosticsOf, adoptBeside_settings]
    rfl
  | changed uri changes version =>
    simp only [notice, changeDocument, ClientNotice.publication?]
    cases hheld : session.documents.get? uri.render with
    | none => rfl
    | some document => cases happly : document.apply changes version <;> simp only [happly] <;> rfl
  | _ => rfl

end Session

/-! ## A run -/

namespace World

theorem step_publications (working : List FileName) (world : World) (step : Step) :
    (world.step working step).2.publications =
      (if world.session.phase = .running then
        step.notice? >>= ClientNotice.publication? world.session.settings.diagnostics
          world.session.documents
      else none).toList := by
  unfold World.step
  split
  · next hended =>
    rw [if_neg (by rw [hended]; decide)]
    rfl
  · next hended =>
    cases step with
    | message received =>
      obtain ⟨turn, hturn, -⟩ :=
        Session.exists_turn? (world.files.reader working) hended received
      simp only [hturn, Outcome.publications, Session.turn?_sent hturn, Step.notice?]
      unfold Session.sends
      cases world.session.phase with
      | running =>
        cases received.notice? with
        | none => rfl
        | some received => exact Session.notice_publications _ _ received
      | _ => rfl
    | _ => simp [Step.notice?, Outcome.publications]

variable {working : List FileName} {files : FileTree} {settings : Settings}

def publishedAfter (working : List FileName) (files : FileTree) (settings : Settings)
    (history steps : List Step) : List Publication :=
  ((reached working files settings history).run working steps).2.flatMap Outcome.publications

def published (working : List FileName) (files : FileTree) (settings : Settings)
    (history : List Step) : List Publication :=
  publishedAfter working files settings [] history

/-- **What a step publishes** is told by the notification that it brings, if the session is
served. -/
theorem publishedAfter_step (history : List Step) (step : Step) :
    publishedAfter working files settings history [step] =
      (if Served history then
        step.notice? >>= ClientNotice.publication? settings.diagnostics
          (documentsAfter working files settings history)
      else none).toList := by
  have hstep := step_publications working (reached working files settings history) step
  simp only [reached_running, reached_settings] at hstep
  simpa [publishedAfter, run, documentsAfter] using hstep

theorem publishedAfter_concat (history steps : List Step) (step : Step) :
    publishedAfter working files settings history (steps ++ [step]) =
      publishedAfter working files settings history steps ++
        publishedAfter working files settings (history ++ steps) [step] := by
  unfold publishedAfter
  rw [run_concat_outcomes, List.flatMap_append, reached_append]
  rfl

theorem mem_publishedAfter_step {history : List Step} {step : Step} {sent : Publication} :
    sent ∈ publishedAfter working files settings history [step] ↔
      Publishes settings.diagnostics history (documentsAfter working files settings history)
        step sent := by
  rw [publishedAfter_step, Option.mem_toList]
  constructor
  · intro h
    obtain ⟨hserved, h⟩ := Option.ite_none_right_eq_some.1 h
    obtain ⟨received, hreceived, hsent⟩ := Option.bind_eq_some_iff.1 h
    cases received with
    | opened uri document => cases hsent; exact .opened hserved hreceived
    | closed uri => cases hsent; exact .closed hserved hreceived
    | changed uri changes version =>
      obtain ⟨document, hheld, hnewer, rfl⟩ :=
        ClientNotice.publication?_changed_eq_some.1 hsent
      exact .changed hserved hreceived hheld hnewer
    | _ => cases hsent
  · intro h
    cases h with
    | opened served asks => rw [if_pos served, asks]; rfl
    | closed served asks => rw [if_pos served, asks]; rfl
    | changed served asks held newer =>
      rw [if_pos served, asks]
      exact ClientNotice.publication?_changed_eq_some.2 ⟨_, held, newer, rfl⟩

/-- **What a step means for one URI.**  Either it publishes nothing for it and leaves its
document as it is; or it publishes, once, what is to be known afterwards, and has then opened
or closed the document or brought a newer version of it. -/
theorem publishedAfter_cases (history : List Step) (step : Step) (key : Text) :
    (publishedFor key (publishedAfter working files settings history [step]) = [] ∧
      (documentsAfter working files settings (history ++ [step])).get? key =
        (documentsAfter working files settings history).get? key) ∨
    (publishedFor key (publishedAfter working files settings history [step]) =
        [.of settings.diagnostics key
          ((documentsAfter working files settings (history ++ [step])).get? key)] ∧
      ((∃ received ∈ noticesAfter history [step], received.decides key = true) ∨
        ∃ held newer,
          (documentsAfter working files settings history).get? key = some held ∧
          (documentsAfter working files settings (history ++ [step])).get? key = some newer ∧
          held.version < newer.version)) := by
  rw [publishedAfter_step, get?_documentsAfter_concat]
  by_cases hserved : Served history
  · cases hnotice : step.notice? with
    | none => exact .inl (by simp [hserved, publishedFor])
    | some received =>
      have hcases := ClientNotice.publication?_cases settings.diagnostics
        (documentsAfter working files settings history) key received
      simpa [hserved, hnotice, noticesAfter] using hcases
  · exact .inl (by simp [hserved, publishedFor])

/-- **What came last for a URI** is what is to be known about it.  Nothing came only if no
document was opened. -/
theorem lastFor_published (history : List Step) (key : Text) :
    lastFor key (published working files settings history) =
        some (.of settings.diagnostics key
          ((documentsAfter working files settings history).get? key)) ∨
      (lastFor key (published working files settings history) = none ∧
        (documentsAfter working files settings history).get? key = none) := by
  induction history using List.reverseRecOn with
  | nil => exact .inr ⟨rfl, rfl⟩
  | append_singleton history step ih =>
    unfold published lastFor at ih ⊢
    rw [publishedAfter_concat, List.nil_append, publishedFor_append]
    rcases publishedAfter_cases history step key with ⟨hnone, hkept⟩ | ⟨hone, -⟩
    · rw [hnone, hkept, List.append_nil]
      exact ih
    · rw [hone]
      exact .inl List.getLast?_concat

/-- **The versions in the life of a document.**  From its opening on, as long as it is neither
opened anew nor closed, those that are published increase, and the last is the one held. -/
theorem versions_of_life {before between : List Step} {opening : Step} {uri : Url}
    {document : Document} (hserved : Served before)
    (hopens : opening.notice? = some (.opened uri document))
    (hlife : ∀ received ∈ noticesAfter (before ++ [opening]) between,
      received.decides uri.render = false) :
    ∃ (earlier : List Int) (held : Document),
      (documentsAfter working files settings (before ++ opening :: between)).get? uri.render =
        some held ∧
      (publishedFor uri.render
          (publishedAfter working files settings before (opening :: between))).map (·.version) =
        (earlier ++ [held.version]).map some ∧
      (earlier ++ [held.version]).Pairwise (· < ·) := by
  induction between using List.reverseRecOn with
  | nil =>
    refine ⟨[], document, ?_, ?_, List.pairwise_singleton _ _⟩
    · rw [get?_documentsAfter_concat, if_pos hserved, hopens]
      simp [ClientNotice.track]
    · rw [publishedAfter_step, if_pos hserved, hopens]
      simp [ClientNotice.publication?, publishedFor, Publication.of]
  | append_singleton between step ih =>
    simp only [noticesAfter_concat, List.mem_append] at hlife
    obtain ⟨earlier, held, hheld, hversions, hsorted⟩ := ih fun received h => hlife received (.inl h)
    rw [← List.cons_append, ← List.append_assoc, publishedAfter_concat, publishedFor_append,
      List.map_append, hversions]
    rcases publishedAfter_cases (before ++ opening :: between) step uri.render with
      ⟨hnone, hkept⟩ | ⟨hone, ⟨received, hreceived, hdecides⟩ | ⟨before', newer, hbefore, hafter, hlt⟩⟩
    · rw [hnone, hkept]
      exact ⟨earlier, held, hheld, List.append_nil _, hsorted⟩
    · -- Such a step would end the life.
      have hcontra := hlife received (.inr (by simpa [noticesAfter] using hreceived))
      rw [hdecides] at hcontra
      cases hcontra
    · rw [hheld] at hbefore
      cases hbefore
      refine ⟨earlier ++ [held.version], newer, hafter, ?_, ?_⟩
      · rw [hone, hafter]
        simp [Publication.of]
      · refine List.pairwise_append.2 ⟨hsorted, List.pairwise_singleton _ _, ?_⟩
        intro version hversion _ hnewer
        rw [List.mem_singleton.1 hnewer]
        rcases List.mem_append.1 hversion with hversion | hversion
        · have hlower := (List.pairwise_append.1 hsorted).2.2 version hversion held.version
          exact (hlower (List.mem_singleton_self _)).trans hlt
        · rwa [List.mem_singleton.1 hversion]

end World

/-- **The diagnostics that a client holds match the documents.**  A step that opens a document,
brings a newer version of one or closes one publishes diagnostics exactly once, and no other
step does: a request publishes none, and neither does a change of a document that is not open
or has that version already.  What came last for a URI are the diagnostics of its document, in
its version; if it is not open, they are none.  And from an opening on, as long as the document
is neither opened anew nor closed, the versions that come for it increase. -/
theorem diagnostics_follow_documents (working : List FileName) (files : FileTree)
    (settings : Settings) (history : List Step) :
    (∀ step,
      (∃ sent, Publishes settings.diagnostics history
          (World.documentsAfter working files settings history) step sent ∧
        World.publishedAfter working files settings history [step] = [sent]) ∨
      ((∀ sent, ¬ Publishes settings.diagnostics history
          (World.documentsAfter working files settings history) step sent) ∧
        World.publishedAfter working files settings history [step] = [])) ∧
    (∀ id name params,
      World.publishedAfter working files settings history
        [.message ⟨some id, name, params⟩] = []) ∧
    (∀ step uri changes version, step.notice? = some (.changed uri changes version) →
      (∀ document,
        (World.documentsAfter working files settings history).get? uri.render = some document →
          version ≤ document.version) →
      World.publishedAfter working files settings history [step] = []) ∧
    (∀ key document,
      (World.documentsAfter working files settings history).get? key = some document →
        lastFor key (World.published working files settings history) =
          some ⟨key, some document.version, settings.diagnostics.diagnose document.text⟩) ∧
    (∀ key, (World.documentsAfter working files settings history).get? key = none →
      ∀ sent ∈ lastFor key (World.published working files settings history),
        sent = ⟨key, none, []⟩) ∧
    (∀ before opening between uri document, history = before ++ opening :: between →
      Served before → opening.notice? = some (.opened uri document) →
      (∀ received ∈ noticesAfter (before ++ [opening]) between,
        received.decides uri.render = false) →
      ∃ versions : List Int,
        (publishedFor uri.render (World.publishedAfter working files settings before
          (opening :: between))).map (·.version) = versions.map some ∧
        versions.Pairwise (· < ·)) := by
  refine ⟨?_, ?_, ?_, ?_, ?_, ?_⟩
  · intro step
    simp only [← World.mem_publishedAfter_step]
    rw [World.publishedAfter_step]
    cases (if Served history then _ else none : Option Publication) with
    | none => exact .inr ⟨by simp, rfl⟩
    | some sent => exact .inl ⟨sent, by simp, rfl⟩
  · intro id name params
    rw [World.publishedAfter_step]
    simp [Step.notice?, Message.notice?]
  · intro step uri changes version hasks hstale
    rw [List.eq_nil_iff_forall_not_mem]
    intro sent hsent
    cases World.mem_publishedAfter_step.1 hsent with
    | opened _ asks => cases hasks.symm.trans asks
    | closed _ asks => cases hasks.symm.trans asks
    | changed _ asks held newer =>
      cases hasks.symm.trans asks
      exact absurd newer (not_lt.2 (hstale _ held))
  · intro key document hheld
    rcases World.lastFor_published history key with hlast | ⟨-, hnone⟩
    · rw [hlast, hheld]
      rfl
    · rw [hheld] at hnone
      cases hnone
  · intro key hnone sent hsent
    rcases World.lastFor_published history key with hlast | ⟨hlast, -⟩
    · rw [hlast, hnone] at hsent
      exact (Option.some.inj hsent).symm
    · rw [hlast] at hsent
      cases hsent
  · rintro before opening between uri document rfl hserved hopens hlife
    obtain ⟨earlier, held, -, hversions, hsorted⟩ :=
      World.versions_of_life hserved hopens hlife
    exact ⟨earlier ++ [held.version], hversions, hsorted⟩

open Reopening in
theorem diagnostics_follow_documents_reopened :
    lastFor uri.render (World.published [] FileTree.empty ⟨none, .exact, .placeholder⟩ steps) =
        some ⟨uri.render, some 3, [DiagnosticsMode.placeholderWarning]⟩ ∧
      ∃ versions : List Int,
        (publishedFor uri.render
          (World.publishedAfter [] FileTree.empty ⟨none, .exact, .placeholder⟩ (steps.take 3)
            (steps.drop 3))).map (·.version) = versions.map some ∧
        versions.Pairwise (· < ·) := by
  obtain ⟨-, -, -, hopen, -, hlife⟩ :=
    diagnostics_follow_documents [] FileTree.empty ⟨none, .exact, .placeholder⟩ steps
  constructor
  · exact hopen uri.render ⟨"newer".toList, 3⟩ (by decide +kernel)
  · refine hlife (steps.take 3) (opening 1 "new") (steps.drop 4) uri ⟨"new".toList, 1⟩ (by rfl)
      (by decide +kernel) (by rfl) ?_
    have hnotices : noticesAfter (steps.take 3 ++ [opening 1 "new"]) (steps.drop 4) =
        [.changed uri [⟨none, "newer".toList⟩] 3, .changed uri [⟨none, "stale".toList⟩] 2] := by
      rfl
    rw [hnotices]
    simp [ClientNotice.decides]

end DawnServer
