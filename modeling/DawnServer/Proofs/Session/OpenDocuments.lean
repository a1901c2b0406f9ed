import DawnServer.Proofs.Session.History
import Mathlib.Data.Set.Card

/-!
# The open documents of a session

Which documents are open is read off the notifications that took effect: a document is open
if the last of them to open or close it opened it, and it has gone through the changes sent
since then, those with a stale version apart (`ClientNotice.follow`).  No other step has a
part in it, and what the server answers about a document rests on exactly that text
(`documents_follow_history`).
-/

namespace DawnServer

namespace ClientNotice

def decides (key : Text) : ClientNotice → Bool
  | .opened uri _ => uri.render == key
  | .closed uri => uri.render == key
  | _ => false

/-- The open document under a URI after a notification that neither opens nor closes it.  A
batch of changes for it is applied if it is newer. -/
def follow (key : Text) (document : Document) : ClientNotice → Document
  | .changed uri changes version =>
    if uri.render = key then
      match document.apply changes version with
      | .ok document => document
      | .error _ => document
    else document
  | _ => document

def track (key : Text) (held : Option Document) : ClientNotice → Option Document
  | .opened uri document => if uri.render = key then some document else held
  | .closed uri => if uri.render = key then none else held
  | received => held.map (follow key · received)

theorem track_eq_some {key : Text} {held : Option Document} {received : ClientNotice}
    {document : Document} :
    track key held received = some document ↔
      (∃ uri, received = .opened uri document ∧ uri.render = key) ∨
        (received.decides key = false ∧
          ∃ before, held = some before ∧ document = follow key before received) := by
  cases received with
  | opened uri opened => by_cases hkey : uri.render = key <;> simp [track, decides, follow, hkey]
  | closed uri => by_cases hkey : uri.render = key <;> simp [track, decides, follow, hkey]
  | _ => simp [track, decides, eq_comm]

/-- **What a row of notifications leaves open.**  A document is open if it was opened and
has been neither opened nor closed since. -/
theorem foldl_track_eq_some {key : Text} {document : Document} (row : List ClientNotice) :
    row.foldl (track key) none = some document ↔
      ∃ earlier uri opened later, row = earlier ++ .opened uri opened :: later ∧
        uri.render = key ∧ (∀ received ∈ later, received.decides key = false) ∧
        document = later.foldl (follow key) opened := by
  -- From the end: the last notification decides the matter, or follows what came before.
  induction row using List.reverseRecOn generalizing document with
  | nil => simp
  | append_singleton row last ih =>
    rw [List.foldl_append, List.foldl_cons, List.foldl_nil, track_eq_some]
    constructor
    · rintro (⟨uri, rfl, hkey⟩ | ⟨hlast, held, hheld, rfl⟩)
      · exact ⟨row, uri, document, [], rfl, hkey, by simp, rfl⟩
      · obtain ⟨earlier, uri, opened, later, rfl, hkey, hlater, rfl⟩ := ih.1 hheld
        refine ⟨earlier, uri, opened, later ++ [last], by simp, hkey, ?_, by simp⟩
        intro received hreceived
        rcases List.mem_append.1 hreceived with hreceived | hreceived
        · exact hlater received hreceived
        · rw [List.mem_singleton.1 hreceived]
          exact hlast
    · rintro ⟨earlier, uri, opened, later, heq, hkey, hlater, rfl⟩
      obtain ⟨rfl, rfl, rfl⟩ | ⟨between, hrow, rfl⟩ := concat_eq_append_cons_iff.1 heq
      · exact .inl ⟨uri, rfl, hkey⟩
      · refine .inr ⟨hlater last (by simp), between.foldl (follow key) opened, ?_, by simp⟩
        apply ih.2
        refine ⟨earlier, uri, opened, between, hrow, hkey, ?_, rfl⟩
        exact fun received hreceived => hlater received (List.mem_append_left _ hreceived)

end ClientNotice

namespace Session

theorem adoptBeside_documents (files : FileReader) (uri : Url) (session : Session) :
    (adoptBeside files uri session).documents = session.documents := by
  unfold adoptBeside
  repeat' split
  all_goals rfl

theorem notice_documents (files : FileReader) (session : Session) (received : ClientNotice)
    (key : Text) :
    (session.notice files received).1.documents.get? key =
      ClientNotice.track key (session.documents.get? key) received := by
  cases received with
  | opened uri document =>
    simp only [notice, openDocument, store, adoptBeside_documents, ClientNotice.track]
    rw [DocumentStore.get?_insert]
    simp only [eq_comm]
  | closed uri =>
    simp only [notice, closeDocument, ClientNotice.track]
    rw [DocumentStore.get?_erase]
    simp only [eq_comm]
  | changed uri changes version =>
    simp only [notice, changeDocument, ClientNotice.track, ClientNotice.follow]
    cases hheld : session.documents.get? uri.render with
    | none =>
      by_cases hkey : uri.render = key
      · subst hkey
        simp [hheld]
      · simp [hkey]
    | some document =>
      cases happly : document.apply changes version with
      | error stale =>
        simp only [happly]
        by_cases hkey : uri.render = key
        · subst hkey
          simp [hheld, happly]
        · simp [hkey]
      | ok changed =>
        simp only [happly, store]
        rw [DocumentStore.get?_insert]
        by_cases hkey : uri.render = key
        · subst hkey
          simp [hheld, happly]
        · simp [hkey, Ne.symm hkey]
  | _ => simp [notice, takeFramework, ClientNotice.track, ClientNotice.follow]

end Session

/-! ## Steps without a part in the documents -/

/-- The step that follows a history is none that changes a document, given the documents that
are open: it is about files, it is a request, it comes too early or too late, it cannot be
read, or it asks for a change that has no place. -/
inductive Idle (history : List Step) (documents : DocumentStore) : Step → Prop
  | write (entries : List (List UInt8 × FileNode)) : Idle history documents (.write entries)
  | remove (path : List UInt8) : Idle history documents (.remove path)
  | request (id : MessageId) (name : Text) (params : Option Json) :
      Idle history documents (.message ⟨some id, name, params⟩)
  | unserved {step : Step} (unserved : ¬ Served history) : Idle history documents step
  | unreadable {received : Message} (unreadable : received.notice? = none) :
      Idle history documents (.message received)
  | stale {step : Step} {uri : Url} {changes : List Change} {version : Int}
      {document : Document} (asks : step.notice? = some (.changed uri changes version))
      (held : documents.get? uri.render = some document) (stale : version ≤ document.version) :
      Idle history documents step
  | changeOfUnknown {step : Step} {uri : Url} {changes : List Change} {version : Int}
      (asks : step.notice? = some (.changed uri changes version))
      (unknown : documents.get? uri.render = none) : Idle history documents step
  | closeOfUnknown {step : Step} {uri : Url} (asks : step.notice? = some (.closed uri))
      (unknown : documents.get? uri.render = none) : Idle history documents step

/-! ## Requests about a document -/

/-- A request about a document, and how it is answered from the document if that is open. -/
inductive Asks (table : Table) (spans : SpanLength) (id : MessageId) (uri : Url) :
    Step → (Document → Json) → Prop
  | completion {params : Json} (read : shapedDocument? Shape.completionParams params = some uri) :
      Asks table spans id uri
        (.message ⟨some id, "textDocument/completion".toList, some params⟩)
        fun document =>
          .arr ((CompletionItem.forDocument table document.text).map CompletionItem.toJson)
  | tokens {params : Json} (read : shapedDocument? Shape.documentParams params = some uri) :
      Asks table spans id uri
        (.message ⟨some id, "textDocument/semanticTokens/full".toList, some params⟩)
        fun document =>
          .object [("data", .arr ((semanticTokens table spans document.text).map Json.nat))]

theorem Asks.ne_null {table : Table} {spans : SpanLength} {id : MessageId} {uri : Url}
    {step : Step} {answer : Document → Json} (h : Asks table spans id uri step answer)
    (document : Document) : answer document ≠ .null := by
  cases h with
  | completion read => exact Json.noConfusion
  | tokens read => exact Json.noConfusion

theorem ofName_completion :
    Method.ofName "textDocument/completion".toList =
      .query fun params => (shapedDocument? Shape.completionParams params).map .complete := by
  have hnotice : noticeReader? "textDocument/completion".toList = none :=
    Option.isNone_iff_eq_none.1 (by decide +kernel)
  unfold Method.ofName
  rw [if_neg (by decide +kernel), if_neg (by decide +kernel), if_neg (by decide +kernel),
    if_neg (by decide +kernel), hnotice, queryReader?, if_pos rfl]

theorem ofName_tokens :
    Method.ofName "textDocument/semanticTokens/full".toList =
      .query fun params => (shapedDocument? Shape.documentParams params).map .tokens := by
  have hnotice : noticeReader? "textDocument/semanticTokens/full".toList = none :=
    Option.isNone_iff_eq_none.1 (by decide +kernel)
  unfold Method.ofName
  rw [if_neg (by decide +kernel), if_neg (by decide +kernel), if_neg (by decide +kernel),
    if_neg (by decide +kernel), hnotice, queryReader?, if_neg (by decide +kernel),
    if_neg (by decide +kernel), if_pos rfl]

theorem Session.turn?_of_query {files : FileReader} {session : Session}
    (hrunning : session.phase = .running) {name : Text} {read : Json → Option Query}
    (hmethod : Method.ofName name = .query read) {params : Json} {query : Query}
    (hread : read params = some query) (id : MessageId) :
    session.turn? files ⟨some id, name, some params⟩ =
      some ⟨session, some ⟨id, session.answer query⟩, []⟩ := by
  have hended : session.phase ≠ .ended := by
    rw [hrunning]
    decide
  rw [turn?, if_neg hended]
  simp only [hmethod, asked, hrunning, Option.bind_eq_bind,
    Option.bind_some, hread]
  rfl

namespace World

variable {working : List FileName} {files : FileTree} {settings : Settings}
  {history : List Step} {step : Step}

def documentsAfter (working : List FileName) (files : FileTree) (settings : Settings)
    (history : List Step) : DocumentStore :=
  (reached working files settings history).session.documents

theorem get?_documentsAfter_concat (key : Text) :
    (documentsAfter working files settings (history ++ [step])).get? key =
      (if Served history then step.notice?.toList else []).foldl (ClientNotice.track key)
        ((documentsAfter working files settings history).get? key) := by
  unfold documentsAfter
  rw [reached_concat, step_session]
  by_cases hserved : Served history
  · rw [if_pos hserved]
    cases hnotice : step.notice? with
    | none =>
      rw [Session.heed_none]
      rfl
    | some received =>
      simp only [Session.heed_of_running (reached_running.2 hserved)]
      exact Session.notice_documents _ _ received key
  · have hidle : (reached working files settings history).session.phase ≠ .running :=
      fun hrunning => hserved (reached_running.1 hrunning)
    rw [if_neg hserved, Session.heed_of_ne hidle]
    rfl

/-- **The documents are read off the notifications that took effect.** -/
theorem get?_documentsAfter (history : List Step) (key : Text) :
    (documentsAfter working files settings history).get? key =
      (notices history).foldl (ClientNotice.track key) none := by
  induction history using List.reverseRecOn with
  | nil => rfl
  | append_singleton history step ih =>
    rw [get?_documentsAfter_concat, notices_concat, List.foldl_append, ih]

theorem get?_documentsAfter_idle
    (h : Idle history (documentsAfter working files settings history) step)
    (key : Text) :
    (documentsAfter working files settings (history ++ [step])).get? key =
      (documentsAfter working files settings history).get? key := by
  rw [get?_documentsAfter_concat]
  generalize documentsAfter working files settings history = documents at h ⊢
  by_cases hserved : Served history
  · rw [if_pos hserved]
    have heeded {received : ClientNotice} (hnotice : step.notice? = some received)
        (hkept : ClientNotice.track key (documents.get? key) received = documents.get? key) :
        step.notice?.toList.foldl (ClientNotice.track key) (documents.get? key) =
          documents.get? key := by
      rw [hnotice]
      exact hkept
    cases h with
    | write entries => rfl
    | remove path => rfl
    | request id name params => rfl
    | unserved unserved => exact absurd hserved unserved
    | unreadable unreadable =>
      rw [Step.notice?, unreadable]
      rfl
    | @stale _ uri changes version document asks held stale =>
      apply heeded asks
      have happly : document.apply changes version = .error ⟨version, document.version⟩ :=
        if_pos stale
      by_cases hkey : uri.render = key
      · subst hkey
        simp [ClientNotice.track, ClientNotice.follow, held, happly]
      · simp [ClientNotice.track, ClientNotice.follow, hkey]
    | @changeOfUnknown _ uri changes version asks unknown =>
      apply heeded asks
      by_cases hkey : uri.render = key
      · subst hkey
        simp [ClientNotice.track, unknown]
      · simp [ClientNotice.track, ClientNotice.follow, hkey]
    | @closeOfUnknown _ uri asks unknown =>
      apply heeded asks
      by_cases hkey : uri.render = key
      · subst hkey
        simp [ClientNotice.track, unknown]
      · simp [ClientNotice.track, hkey]
  · rw [if_neg hserved]
    rfl

/-- **What a request about a document is answered.** -/
theorem answer_to_request (hserved : Served history) {id : MessageId} {uri : Url}
    {answer : Document → Json}
    (h : Asks (reached working files settings history).session.registry.table settings.spans id
      uri step answer) :
    ((reached working files settings history).step working step).2 =
      .turn ⟨(reached working files settings history).session,
        some ⟨id, .ok (match
          (documentsAfter working files settings history).get? uri.render with
          | none => .null
          | some document => answer document)⟩, []⟩ := by
  have hrunning : (reached working files settings history).session.phase = .running :=
    reached_running.2 hserved
  have hsettings : (reached working files settings history).session.settings = settings :=
    reached_settings history
  unfold documentsAfter
  generalize reached working files settings history = world at *
  have hended : world.session.phase ≠ .ended := by
    rw [hrunning]
    decide
  cases h with
  | completion read =>
    rw [World.step, if_neg hended]
    simp only [Session.turn?_of_query hrunning ofName_completion
      (Option.map_eq_some_iff.2 ⟨uri, read, rfl⟩), Session.answer, Session.completions?]
    cases world.session.documents.get? uri.render <;> rfl
  | tokens read =>
    rw [World.step, if_neg hended]
    simp only [Session.turn?_of_query hrunning ofName_tokens
      (Option.map_eq_some_iff.2 ⟨uri, read, rfl⟩), Session.answer, Session.tokens?, hsettings]
    cases world.session.documents.get? uri.render <;> rfl

end World

namespace DocumentStore

theorem size_eq_ncard (store : DocumentStore) :
    store.size = {key | (store.get? key).isSome}.ncard := by
  have hkeys : {key | (store.get? key).isSome} = ((store.entries.map (·.1)).toFinset : Set Text) := by
    ext key
    show (store.entries.lookup key).isSome ↔ key ∈ ((store.entries.map (·.1)).toFinset : Set Text)
    rw [Finset.mem_coe, List.mem_toFinset, List.lookup_isSome_iff, List.mem_map]
    constructor
    · rintro ⟨entry, hentry, hkey⟩
      exact ⟨entry, hentry, (beq_iff_eq.1 hkey).symm⟩
    · rintro ⟨entry, hentry, rfl⟩
      exact ⟨entry, hentry, beq_self_eq_true _⟩
  rw [hkeys, Set.ncard_coe_finset, List.toFinset_card_of_nodup store.distinct, List.length_map]
  rfl

end DocumentStore

/-- **The open documents follow the history.**  Under a URI there is a document if it was
opened and has been neither opened nor closed since; it is the one that was opened, after the
newer ones of the changes sent since.  A step without a part in the documents leaves each of
them as it is.  A request about a document is answered with null if it is not open, and from
its text and the table in effect if it is.  The number of documents is that of the URIs with
one. -/
theorem documents_follow_history (working : List FileName) (files : FileTree)
    (settings : Settings) (history : List Step) :
    (∀ key document,
      (World.documentsAfter working files settings history).get? key = some document ↔
        ∃ earlier uri opened later, notices history = earlier ++ .opened uri opened :: later ∧
          uri.render = key ∧ (∀ received ∈ later, received.decides key = false) ∧
          document = later.foldl (ClientNotice.follow key) opened) ∧
    (∀ step, Idle history (World.documentsAfter working files settings history) step → ∀ key,
      (World.documentsAfter working files settings (history ++ [step])).get? key =
        (World.documentsAfter working files settings history).get? key) ∧
    (Served history → ∀ id uri step answer,
      Asks (World.reached working files settings history).session.registry.table settings.spans
        id uri step answer →
      ∃ result, ((World.reached working files settings history).step working step).2 =
          .turn ⟨(World.reached working files settings history).session,
            some ⟨id, .ok result⟩, []⟩ ∧
        (result = .null ↔
          (World.documentsAfter working files settings history).get? uri.render = none) ∧
        ∀ document,
          (World.documentsAfter working files settings history).get? uri.render =
              some document →
            result = answer document) ∧
    (World.documentsAfter working files settings history).size =
      {key | ((World.documentsAfter working files settings history).get? key).isSome}.ncard := by
  refine ⟨?_, ?_, ?_, DocumentStore.size_eq_ncard _⟩
  · intro key document
    rw [World.get?_documentsAfter]
    exact ClientNotice.foldl_track_eq_some (notices history)
  · intro step h key
    exact World.get?_documentsAfter_idle h key
  · intro hserved id uri step answer h
    refine ⟨_, World.answer_to_request hserved h, ?_, ?_⟩
    · cases hheld : (World.documentsAfter working files settings history).get? uri.render with
      | none => simp
      | some document => simp [h.ne_null document]
    · intro document hheld
      rw [hheld]

/-! ## A run

A document is opened, closed and opened anew with a lower version; then it is changed, and a
batch with an old version comes too late. -/

namespace Reopening

def uri : Url := ⟨"file".toList, some ⟨[], [], none⟩, "/a".toList, none, none⟩

def about (method : String) (document : List (String × Json)) (rest : List (String × Json)) :
    Step :=
  .message ⟨none, method.toList,
    some (.object (("textDocument", .object (("uri", .lit "file:///a") :: document)) :: rest))⟩

def opening (version : Int) (text : String) : Step :=
  about "textDocument/didOpen"
    [("languageId", .lit "dawn"), ("version", .int version), ("text", .lit text)] []

def changing (version : Int) (text : String) : Step :=
  about "textDocument/didChange" [("version", .int version)]
    [("contentChanges", .arr [.object [("text", .lit text)]])]

def steps : List Step :=
  [.message ⟨some (.number 1), "initialize".toList, some (.object [("capabilities", .object [])])⟩,
    opening 5 "old", about "textDocument/didClose" [] [], opening 1 "new", changing 3 "newer",
    changing 2 "stale"]

end Reopening

open Reopening in
theorem documents_follow_history_reopened :
    (World.documentsAfter [] FileTree.empty ⟨none, .exact, .off⟩ steps).get? uri.render =
      some ⟨"newer".toList, 3⟩ := by
  refine ((documents_follow_history [] FileTree.empty ⟨none, .exact, .off⟩ steps).1 _ _).2
    ⟨[.opened uri ⟨"old".toList, 5⟩, .closed uri], uri, ⟨"new".toList, 1⟩,
      [.changed uri [⟨none, "newer".toList⟩] 3, .changed uri [⟨none, "stale".toList⟩] 2],
      by rfl, rfl, by simp [ClientNotice.decides], by rfl⟩

end DawnServer
