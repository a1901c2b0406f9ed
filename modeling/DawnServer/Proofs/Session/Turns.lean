import DawnServer.Proofs.Session.Messages

/-!
# What a turn does

A turn does two things to a session and no more: it heeds the notification in the message,
while the session is running, and it sets the phase (`Session.exists_turn?`).  A step of a
run does the same, and what it does to the files besides (`World.step_session`,
`World.step_files`).  What it sends is what that notification brings (`Session.turn?_sent`).
-/

namespace DawnServer

def Phase.next (phase : Phase) (step : Step) : Phase :=
  match phase with
  | .fresh => if step.leaves then .ended else if step.opens then .running else .fresh
  | .running => if step.leaves then .ended else if step.shutsDown then .shutDown else .running
  | .shutDown => if step.leaves then .ended else .shutDown
  | .ended => .ended

theorem Phase.next_of_passive {step : Step} (hleaves : step.leaves = false)
    (hopens : step.opens = false) (hshut : step.shutsDown = false) (phase : Phase) :
    phase.next step = phase := by
  cases phase <;> simp [Phase.next, hleaves, hopens, hshut]

theorem Phase.next_of_leaves {step : Step} (h : step.leaves = true) (phase : Phase) :
    phase.next step = .ended := by
  cases phase <;> simp [Phase.next, h]

theorem Phase.next_of_steady {step : Step} (hleaves : step.leaves = false)
    (hshut : step.shutsDown = false) (phase : Phase) :
    phase.next step = if phase = .fresh ∧ step.opens = true then .running else phase := by
  cases phase <;> simp [Phase.next, hleaves, hshut]

theorem Phase.next_of_shutsDown {step : Step} (hleaves : step.leaves = false)
    (hopens : step.opens = false) (h : step.shutsDown = true) (phase : Phase) :
    phase.next step = if phase = .running then .shutDown else phase := by
  cases phase <;> simp [Phase.next, hleaves, hopens, h]

namespace Session

/-- A session after the notification that a step brings, if it brings one.  Only a running
session heeds it. -/
def heed (files : FileReader) (session : Session) (received : Option ClientNotice) : Session :=
  match session.phase, received with
  | .running, some received => (session.notice files received).1
  | _, _ => session

@[simp] theorem heed_none (files : FileReader) (session : Session) :
    session.heed files none = session := by
  unfold heed
  cases session.phase <;> rfl

theorem heed_of_running {files : FileReader} {session : Session} (h : session.phase = .running)
    (received : ClientNotice) :
    session.heed files (some received) = (session.notice files received).1 := by
  unfold heed
  rw [h]

theorem heed_of_ne {files : FileReader} {session : Session} (h : session.phase ≠ .running)
    (received : Option ClientNotice) : session.heed files received = session := by
  unfold heed
  cases hphase : session.phase with
  | running => exact absurd hphase h
  | _ => rfl

theorem notice_frame (files : FileReader) (session : Session) (received : ClientNotice) :
    (session.notice files received).1.settings = session.settings ∧
      (session.notice files received).1.phase = session.phase := by
  cases received with
  | opened uri document =>
    simp only [notice, openDocument, store, adoptBeside]
    repeat' split
    all_goals exact ⟨rfl, rfl⟩
  | changed uri changes version =>
    simp only [notice, changeDocument]
    repeat' split
    all_goals exact ⟨rfl, rfl⟩
  | _ => exact ⟨rfl, rfl⟩

theorem heed_frame (files : FileReader) (session : Session) (received : Option ClientNotice) :
    (session.heed files received).settings = session.settings ∧
      (session.heed files received).phase = session.phase := by
  unfold heed
  split
  · exact notice_frame files session _
  · exact ⟨rfl, rfl⟩

theorem introduce_session (session : Session) (id : Option MessageId) (params : Option Json) :
    (session.introduce id params).session =
      if session.phase = .fresh ∧ (id.isSome && params.any Shape.startParams.admits) = true then
        { session with phase := .running }
      else session := by
  unfold introduce
  cases session.phase with
  | fresh =>
    obtain _ | id := id
    · rfl
    · cases params.any Shape.startParams.admits <;> simp [replying]
  | _ => rfl

theorem shutDown_session (session : Session) (id : Option MessageId) (params : Option Json) :
    (session.shutDown id params).session =
      if session.phase = .running then { session with phase := .shutDown } else session := by
  unfold shutDown
  cases session.phase <;> rfl

theorem notified_session (files : FileReader) (session : Session) (id : Option MessageId)
    (read : Json → Option ClientNotice) (params : Option Json) :
    (session.notified files id read params).session =
      match id with
      | none => session.heed files (params >>= read)
      | some _ => session := by
  unfold notified heed
  cases session.phase with
  | running =>
    obtain _ | id := id
    · cases params >>= read <;> rfl
    · rfl
  | _ => cases id <;> rfl

theorem asked_session (session : Session) (id : Option MessageId) (read : Json → Option Query)
    (params : Option Json) : (session.asked id read params).session = session := by
  unfold asked
  cases session.phase with
  | running => cases params >>= read <;> rfl
  | _ => rfl

theorem idle_session (session : Session) (id : Option MessageId) :
    (session.idle id).session = session := by
  unfold idle
  cases session.phase <;> rfl

theorem unknown_session (session : Session) (id : Option MessageId) (method : Text) :
    (session.unknown id method).session = session := by
  unfold unknown
  split <;> rfl

/-- **What a turn can do.**  While a session lasts there is one for every message.  It heeds
the notification in it, and sets the phase. -/
theorem exists_turn? (files : FileReader) {session : Session} (hphase : session.phase ≠ .ended)
    (received : Message) :
    ∃ turn, session.turn? files received = some turn ∧
      turn.session =
        { session.heed files received.notice? with
          phase := session.phase.next (.message received) } := by
  have hleaves := Step.leaves_message received
  have hopens := Step.opens_message received
  have hshut := Step.shutsDown_message received
  have hread := Method.noticeReader?_eq received.method
  obtain ⟨id, name, params⟩ := received
  simp only [turn?, if_neg hphase, Option.some.injEq, exists_eq_left']
  -- What steers the phase and what brings a notification are cases of the method.
  generalize Method.ofName name = method at hleaves hopens hshut hread ⊢
  cases method with
  | exit =>
    rw [Message.notice?_of_no_reader hread, heed_none, Phase.next_of_leaves hleaves]
  | introduce =>
    rw [Message.notice?_of_no_reader hread, heed_none, introduce_session,
      Phase.next_of_steady hleaves hshut, hopens]
    split <;> rfl
  | shutDown =>
    rw [Message.notice?_of_no_reader hread, heed_none, shutDown_session,
      Phase.next_of_shutsDown hleaves hopens hshut]
    split <;> rfl
  | notice read =>
    rw [Message.notice?_of_reader hread, Phase.next_of_passive hleaves hopens hshut,
      notified_session]
    obtain _ | id := id
    · rw [Option.isNone_none, if_pos rfl, ← (heed_frame files session (params >>= read)).2]
    · rw [Option.isNone_some, if_neg Bool.false_ne_true, heed_none]
  | query read =>
    rw [Message.notice?_of_no_reader hread, heed_none, asked_session,
      Phase.next_of_passive hleaves hopens hshut]
  | idle =>
    rw [Message.notice?_of_no_reader hread, heed_none, idle_session,
      Phase.next_of_passive hleaves hopens hshut]
  | unknown =>
    rw [Message.notice?_of_no_reader hread, heed_none, unknown_session,
      Phase.next_of_passive hleaves hopens hshut]

/-! ## What is sent -/

def sends (files : FileReader) (session : Session) (received : Option ClientNotice) :
    List ServerNotice :=
  match session.phase, received with
  | .running, some received => (session.notice files received).2
  | _, _ => []

@[simp] theorem sends_none (files : FileReader) (session : Session) :
    session.sends files none = [] := by
  unfold sends
  cases session.phase <;> rfl

theorem introduce_sent (session : Session) (id : Option MessageId) (params : Option Json) :
    (session.introduce id params).sent = [] := by
  unfold introduce
  repeat' split
  all_goals rfl

theorem shutDown_sent (session : Session) (id : Option MessageId) (params : Option Json) :
    (session.shutDown id params).sent = [] := by
  unfold shutDown
  split <;> rfl

theorem notified_sent (files : FileReader) (session : Session) (id : Option MessageId)
    (read : Json → Option ClientNotice) (params : Option Json) :
    (session.notified files id read params).sent =
      match id with
      | none => session.sends files (params >>= read)
      | some _ => [] := by
  unfold notified sends
  cases session.phase with
  | running =>
    obtain _ | id := id
    · cases params >>= read <;> rfl
    · rfl
  | _ => cases id <;> rfl

theorem asked_sent (session : Session) (id : Option MessageId) (read : Json → Option Query)
    (params : Option Json) : (session.asked id read params).sent = [] := by
  unfold asked
  repeat' split
  all_goals rfl

theorem idle_sent (session : Session) (id : Option MessageId) : (session.idle id).sent = [] := by
  unfold idle
  split <;> rfl

theorem unknown_sent (session : Session) (id : Option MessageId) (method : Text) :
    (session.unknown id method).sent = [] := by
  unfold unknown
  split <;> rfl

/-- **What a turn sends.**  It is what the notification in the message brings, and no other
message brings anything. -/
theorem turn?_sent {files : FileReader} {session : Session} {received : Message} {turn : Turn}
    (h : session.turn? files received = some turn) :
    turn.sent = session.sends files received.notice? := by
  have hread := Method.noticeReader?_eq received.method
  obtain ⟨id, name, params⟩ := received
  unfold turn? at h
  simp only [Option.ite_none_left_eq_some, Option.some.injEq] at h
  obtain ⟨-, rfl⟩ := h
  generalize Method.ofName name = method at hread ⊢
  cases method with
  | exit => rw [Message.notice?_of_no_reader hread, sends_none]
  | introduce => rw [Message.notice?_of_no_reader hread, sends_none, introduce_sent]
  | shutDown => rw [Message.notice?_of_no_reader hread, sends_none, shutDown_sent]
  | notice read =>
    rw [Message.notice?_of_reader hread, notified_sent]
    obtain _ | id := id
    · rfl
    · exact (sends_none files session).symm
  | query read => rw [Message.notice?_of_no_reader hread, sends_none, asked_sent]
  | idle => rw [Message.notice?_of_no_reader hread, sends_none, idle_sent]
  | unknown => rw [Message.notice?_of_no_reader hread, sends_none, unknown_sent]

end Session

/-! ## Steps of a run -/

def FileTree.after (tree : FileTree) : Step → FileTree
  | .write entries => tree.writeAll entries
  | .remove path => tree.remove path
  | .message _ => tree

namespace World

variable (working : List FileName)

theorem step_session (world : World) (step : Step) :
    (world.step working step).1.session =
      { world.session.heed (world.files.reader working) step.notice? with
        phase := world.session.phase.next step } := by
  unfold World.step
  split
  · next hended =>
    rw [Session.heed_of_ne (by rw [hended]; decide), hended]
    cases world with | mk files session =>
    cases session
    cases hended
    rfl
  · next hended =>
    obtain ⟨files, session⟩ := world
    cases step with
    | message received =>
      obtain ⟨turn, hturn, hsession⟩ :=
        Session.exists_turn? (files.reader working) hended received
      simp only [hturn]
      exact hsession
    | _ =>
      rw [Phase.next_of_passive rfl rfl rfl]
      simp only [Step.notice?, Session.heed_none]

theorem step_files {world : World} (h : world.session.phase ≠ .ended) (step : Step) :
    (world.step working step).1.files = world.files.after step := by
  unfold World.step
  rw [if_neg h]
  cases step with
  | message received =>
    obtain ⟨turn, hturn, -⟩ :=
      Session.exists_turn? (world.files.reader working) h received
    simp only [hturn]
    rfl
  | _ => rfl

end World

end DawnServer
