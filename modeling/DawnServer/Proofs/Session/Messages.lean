import DawnServer.Session.Run

/-!
# What a message brings

The method of a message is known by its name alone (`Method.ofName_eq_exit` and the lemmas
after it).  Three of them steer the session; a notification comes by its own method, without
an identifier and with parameters that can be read (`Step.notice?_eq_some`).
-/

namespace DawnServer

/-- The notification that a message carries: it has no identifier, and its parameters can
be read. -/
def Message.notice? (message : Message) : Option ClientNotice :=
  match message.id, noticeReader? message.method with
  | none, some read => message.params >>= read
  | _, _ => none

namespace Step

def notice? : Step → Option ClientNotice
  | message received => received.notice?
  | _ => none

/-- Whether a step asks for the start of a session, with an identifier and readable
parameters. -/
def opens : Step → Bool
  | message received =>
    received.method == "initialize".toList &&
      (received.id.isSome && received.params.any Shape.startParams.admits)
  | _ => false

def shutsDown : Step → Bool
  | message received => received.method == "shutdown".toList
  | _ => false

def leaves : Step → Bool
  | message received => received.method == "exit".toList
  | _ => false

end Step

namespace Method

theorem noticeReader?_of_idle {name : Text}
    (h : (idleNotices.map String.toList).contains name = true) : noticeReader? name = none := by
  have hidle : ∀ other ∈ idleNotices.map String.toList, (noticeReader? other).isNone := by decide
  exact Option.isNone_iff_eq_none.1 (hidle name (List.contains_iff_mem.1 h))

theorem name_of_ofName (name : Text) :
    (ofName name = .exit → name = "exit".toList) ∧
      (ofName name = .introduce → name = "initialize".toList) ∧
      (ofName name = .shutDown → name = "shutdown".toList) := by
  unfold ofName
  repeat' split
  all_goals
    refine ⟨fun h => ?_, fun h => ?_, fun h => ?_⟩
    all_goals first | assumption | cases h

theorem ofName_eq_exit {name : Text} : ofName name = .exit ↔ name = "exit".toList := by
  constructor
  · exact (name_of_ofName name).1
  · rintro rfl
    rfl

theorem ofName_eq_introduce {name : Text} :
    ofName name = .introduce ↔ name = "initialize".toList := by
  constructor
  · exact (name_of_ofName name).2.1
  · rintro rfl
    rfl

theorem ofName_eq_shutDown {name : Text} :
    ofName name = .shutDown ↔ name = "shutdown".toList := by
  constructor
  · exact (name_of_ofName name).2.2
  · rintro rfl
    rfl

theorem ofName_eq_notice {name : Text} {read : Json → Option ClientNotice} :
    ofName name = .notice read ↔ noticeReader? name = some read := by
  unfold ofName
  constructor
  · intro h
    repeat' split at h
    all_goals cases h
    assumption
  · intro h
    rw [if_neg, if_neg, if_neg, if_neg, h]
    · intro hidle
      rw [noticeReader?_of_idle hidle] at h
      cases h
    all_goals
      rintro rfl
      cases h

def reader? : Method → Option (Json → Option ClientNotice)
  | .notice read => some read
  | _ => none

theorem noticeReader?_eq (name : Text) : noticeReader? name = (ofName name).reader? := by
  cases hmethod : ofName name with
  | notice read => exact ofName_eq_notice.1 hmethod
  | _ =>
    refine Option.eq_none_iff_forall_ne_some.2 fun read h => ?_
    rw [ofName_eq_notice.2 h] at hmethod
    cases hmethod

end Method

theorem Message.notice?_of_reader {received : Message} {read : Json → Option ClientNotice}
    (h : noticeReader? received.method = some read) :
    received.notice? = if received.id.isNone then received.params >>= read else none := by
  rw [notice?, h]
  cases received.id <;> rfl

theorem Message.notice?_of_no_reader {received : Message}
    (h : noticeReader? received.method = none) : received.notice? = none := by
  rw [notice?, h]
  cases received.id <;> rfl

namespace Step

theorem leaves_message (received : Message) :
    (message received).leaves =
      match Method.ofName received.method with
      | .exit => true
      | _ => false := by
  cases hmethod : Method.ofName received.method with
  | exit => exact beq_iff_eq.2 (Method.ofName_eq_exit.1 hmethod)
  | _ =>
    refine beq_eq_false_iff_ne.2 fun h => ?_
    rw [Method.ofName_eq_exit.2 h] at hmethod
    cases hmethod

theorem shutsDown_message (received : Message) :
    (message received).shutsDown =
      match Method.ofName received.method with
      | .shutDown => true
      | _ => false := by
  cases hmethod : Method.ofName received.method with
  | shutDown => exact beq_iff_eq.2 (Method.ofName_eq_shutDown.1 hmethod)
  | _ =>
    refine beq_eq_false_iff_ne.2 fun h => ?_
    rw [Method.ofName_eq_shutDown.2 h] at hmethod
    cases hmethod

theorem opens_message (received : Message) :
    (message received).opens =
      match Method.ofName received.method with
      | .introduce => received.id.isSome && received.params.any Shape.startParams.admits
      | _ => false := by
  cases hmethod : Method.ofName received.method with
  | introduce =>
    rw [opens, beq_iff_eq.2 (Method.ofName_eq_introduce.1 hmethod), Bool.true_and]
  | _ =>
    refine Bool.and_eq_false_iff.2 (.inl (beq_eq_false_iff_ne.2 fun h => ?_))
    rw [Method.ofName_eq_introduce.2 h] at hmethod
    cases hmethod

end Step

/-! ## The notifications, by their names -/

def ClientNotice.methodName : ClientNotice → String
  | .ready => "initialized"
  | .opened _ _ => "textDocument/didOpen"
  | .changed _ _ _ => "textDocument/didChange"
  | .closed _ => "textDocument/didClose"
  | .framework _ => "dawn/framework"

theorem methodName_of_openedDocument? {value : Json} {received : ClientNotice}
    (h : openedDocument? value = some received) :
    received.methodName = "textDocument/didOpen" := by
  simp only [openedDocument?, Option.bind_eq_bind, Option.bind_eq_some_iff] at h
  obtain ⟨-, -, uri, -, -, -, version, -, text, -, h⟩ := h
  cases h
  rfl

theorem methodName_of_changedDocument? {params : Json} {received : ClientNotice}
    (h : changedDocument? params = some received) :
    received.methodName = "textDocument/didChange" := by
  simp only [changedDocument?, Option.bind_eq_bind, Option.bind_eq_some_iff] at h
  obtain ⟨-, -, ⟨uri, version⟩, -, changes, -, h⟩ := h
  cases h
  rfl

theorem eq_methodName {name : Text} {read : Json → Option ClientNotice} {params : Json}
    {received : ClientNotice} (hread : noticeReader? name = some read)
    (h : read params = some received) : name = received.methodName.toList := by
  unfold noticeReader? at hread
  split at hread
  · next hname =>
    cases hread
    obtain ⟨-, -, rfl⟩ := Option.map_eq_some_iff.1 h
    exact hname
  split at hread
  · next hname =>
    cases hread
    simp only [documentParam?, Json.required?, Option.bind_eq_bind, Option.bind_eq_some_iff] at h
    obtain ⟨-, -, value, -, h⟩ := h
    rw [methodName_of_openedDocument? h]
    exact hname
  split at hread
  · next hname =>
    cases hread
    rw [methodName_of_changedDocument? h]
    exact hname
  split at hread
  · next hname =>
    cases hread
    obtain ⟨uri, -, rfl⟩ := Option.map_eq_some_iff.1 h
    exact hname
  split at hread
  · next hname =>
    cases hread
    obtain ⟨table, -, rfl⟩ := Option.map_eq_some_iff.1 h
    exact hname
  · cases hread

theorem Step.notice?_eq_some {step : Step} {received : ClientNotice} :
    step.notice? = some received ↔
      ∃ params, step = .message ⟨none, received.methodName.toList, some params⟩ ∧
        noticeReader? received.methodName.toList >>= (· params) = some received := by
  constructor
  · intro h
    cases step with
    | message carrier =>
      obtain ⟨_ | id, name, params⟩ := carrier
      · simp only [notice?, Message.notice?] at h
        cases hread : noticeReader? name with
        | none => simp [hread] at h
        | some read =>
          simp only [hread, Option.bind_eq_bind, Option.bind_eq_some_iff] at h
          obtain ⟨params, rfl, hreceived⟩ := h
          obtain rfl := eq_methodName hread hreceived
          exact ⟨params, rfl, by simp [hread, hreceived]⟩
      · cases h
    | _ => cases h
  · rintro ⟨params, rfl, h⟩
    simp only [Option.bind_eq_bind, Option.bind_eq_some_iff] at h
    obtain ⟨read, hread, hreceived⟩ := h
    simp [notice?, Message.notice?, hread, hreceived]

theorem noticeReader?_didOpen :
    noticeReader? "textDocument/didOpen".toList = some (documentParam? openedDocument?) := rfl

theorem noticeReader?_framework :
    noticeReader? "dawn/framework".toList =
      some fun params => (Table.ofJson? params).map .framework := rfl

theorem Step.notice?_eq_opened {step : Step} {uri : Url} {document : Document} :
    step.notice? = some (.opened uri document) ↔
      ∃ params, step = .message ⟨none, "textDocument/didOpen".toList, some params⟩ ∧
        documentParam? openedDocument? params = some (.opened uri document) := by
  rw [notice?_eq_some]
  simp only [ClientNotice.methodName]
  rw [noticeReader?_didOpen]
  rfl

theorem Step.notice?_eq_framework {step : Step} {table : Table} :
    step.notice? = some (.framework table) ↔
      ∃ params, step = .message ⟨none, "dawn/framework".toList, some params⟩ ∧
        Table.ofJson? params = some table := by
  have hmap : ∀ params, (Table.ofJson? params).map ClientNotice.framework =
      some (.framework table) ↔ Table.ofJson? params = some table := by
    intro params
    rw [Option.map_eq_some_iff]
    constructor
    · rintro ⟨other, hother, heq⟩
      cases heq
      exact hother
    · exact fun h => ⟨table, h, rfl⟩
  rw [notice?_eq_some]
  simp only [ClientNotice.methodName]
  rw [noticeReader?_framework]
  exact exists_congr fun params => and_congr_right fun _ => hmap params

end DawnServer
