import DawnServer.Proofs.Session.Turns
import Mathlib.Data.List.Induction

/-!
# Histories

How far a session has come is read off the steps behind it: it is served from the request
that starts it up to the one that ends it (`Served`, `World.reached_running`).  So are the
files (`World.reached_files`) and the notifications that took effect (`notices`).
-/

namespace DawnServer

theorem concat_eq_append_cons_iff {α : Type} {row earlier later : List α} {last entry : α} :
    row ++ [last] = earlier ++ entry :: later ↔
      (row = earlier ∧ last = entry ∧ later = []) ∨
        ∃ between, row = earlier ++ entry :: between ∧ later = between ++ [last] := by
  constructor
  · intro h
    rcases List.eq_nil_or_concat later with rfl | ⟨between, other, rfl⟩
    · obtain ⟨rfl, hlast⟩ := List.append_inj' h rfl
      cases hlast
      exact .inl ⟨rfl, rfl, rfl⟩
    · rw [List.concat_eq_append, ← List.cons_append, ← List.append_assoc] at h
      obtain ⟨rfl, hlast⟩ := List.append_inj' h rfl
      cases hlast
      exact .inr ⟨between, rfl, List.concat_eq_append⟩
  · rintro (⟨rfl, rfl, rfl⟩ | ⟨between, rfl, rfl⟩)
    · rfl
    · rw [List.append_assoc, List.cons_append]

/-- A history without start and end. -/
def Fresh (history : List Step) : Prop :=
  ∀ step ∈ history, step.opens = false ∧ step.leaves = false

/-- A history in which the session has been started, and since then neither shut down nor
left. -/
def Served (history : List Step) : Prop :=
  ∃ before opening between, history = before ++ opening :: between ∧ Fresh before ∧
    opening.opens = true ∧ ∀ step ∈ between, step.shutsDown = false ∧ step.leaves = false

def FileTree.following (tree : FileTree) (history : List Step) : FileTree :=
  history.foldl FileTree.after tree

namespace World

theorem run_concat (working : List FileName) (world : World) (history : List Step) (step : Step) :
    (world.run working (history ++ [step])).1 =
      ((world.run working history).1.step working step).1 := by
  induction history generalizing world with
  | nil => rfl
  | cons first history ih => exact ih (world.step working first).1

theorem run_concat_outcomes (working : List FileName) (world : World) (history : List Step)
    (step : Step) :
    (world.run working (history ++ [step])).2 =
      (world.run working history).2 ++
        [((world.run working history).1.step working step).2] := by
  induction history generalizing world with
  | nil => rfl
  | cons first history ih =>
    exact congrArg ((world.step working first).2 :: ·) (ih (world.step working first).1)

def reached (working : List FileName) (files : FileTree) (settings : Settings)
    (history : List Step) : World :=
  ((start working files settings).run working history).1

theorem reached_concat (working : List FileName) (files : FileTree) (settings : Settings)
    (history : List Step) (step : Step) :
    reached working files settings (history ++ [step]) =
      ((reached working files settings history).step working step).1 :=
  run_concat working _ history step

theorem reached_append (working : List FileName) (files : FileTree) (settings : Settings)
    (history steps : List Step) :
    reached working files settings (history ++ steps) =
      ((reached working files settings history).run working steps).1 := by
  induction steps using List.reverseRecOn with
  | nil => rw [List.append_nil]; rfl
  | append_singleton steps step ih =>
    rw [← List.append_assoc, reached_concat, run_concat, ih]

end World

/-! ## The phase, read off the history -/

def phaseAfter (history : List Step) : Phase := history.foldl Phase.next .fresh

theorem phaseAfter_concat (history : List Step) (step : Step) :
    phaseAfter (history ++ [step]) = (phaseAfter history).next step := by
  simp [phaseAfter]

theorem Step.leaves_of_opens {step : Step} (h : step.opens = true) : step.leaves = false := by
  cases step with
  | message received =>
    rw [opens_message] at h
    rw [leaves_message]
    cases hmethod : Method.ofName received.method <;> simp_all
  | _ => rfl

theorem Phase.next_eq_fresh {phase : Phase} {step : Step} :
    phase.next step = .fresh ↔ phase = .fresh ∧ step.opens = false ∧ step.leaves = false := by
  cases phase with
  | fresh =>
    simp only [Phase.next, true_and]
    cases hleaves : step.leaves <;> cases hopens : step.opens <;> simp
  | running =>
    simp only [Phase.next]
    split
    · simp
    · split <;> simp
  | shutDown =>
    simp only [Phase.next]
    split <;> simp
  | ended => simp [Phase.next]

theorem Phase.next_eq_running {phase : Phase} {step : Step} :
    phase.next step = .running ↔
      (phase = .running ∧ step.shutsDown = false ∧ step.leaves = false) ∨
        (phase = .fresh ∧ step.opens = true) := by
  cases phase with
  | fresh =>
    have hleaves : step.opens = true → step.leaves = false := Step.leaves_of_opens
    simp only [Phase.next]
    cases hopens : step.opens with
    | true => simp [hleaves hopens]
    | false => split <;> simp
  | running =>
    simp only [Phase.next]
    cases hleaves : step.leaves <;> cases hshut : step.shutsDown <;> simp
  | shutDown =>
    simp only [Phase.next]
    split <;> simp
  | ended => simp [Phase.next]

theorem fresh_concat {history : List Step} {step : Step} :
    Fresh (history ++ [step]) ↔ Fresh history ∧ step.opens = false ∧ step.leaves = false := by
  simp only [Fresh, List.mem_append, List.mem_singleton]
  constructor
  · exact fun h => ⟨fun other hother => h other (.inl hother), h step (.inr rfl)⟩
  · rintro ⟨hhistory, hstep⟩ other (hother | rfl)
    · exact hhistory other hother
    · exact hstep

theorem served_concat {history : List Step} {step : Step} :
    Served (history ++ [step]) ↔
      (Served history ∧ step.shutsDown = false ∧ step.leaves = false) ∨
        (Fresh history ∧ step.opens = true) := by
  constructor
  · rintro ⟨before, opening, later, heq, hbefore, hopens, hlater⟩
    obtain ⟨rfl, rfl, rfl⟩ | ⟨between, rfl, rfl⟩ := concat_eq_append_cons_iff.1 heq
    · exact .inr ⟨hbefore, hopens⟩
    · refine .inl ⟨⟨before, opening, between, rfl, hbefore, hopens, ?_⟩, ?_⟩
      · exact fun other hother => hlater other (List.mem_append_left _ hother)
      · exact hlater step (by simp)
  · rintro (⟨⟨before, opening, between, rfl, hbefore, hopens, hbetween⟩, hstep⟩ | ⟨hfresh, hopens⟩)
    · refine ⟨before, opening, between ++ [step], by simp, hbefore, hopens, ?_⟩
      intro other hother
      rcases List.mem_append.1 hother with hother | hother
      · exact hbetween other hother
      · rw [List.mem_singleton.1 hother]
        exact hstep
    · exact ⟨history, step, [], rfl, hfresh, hopens, by simp⟩

/-- **The phase is read off the history.**  The two phases in which a session can still come
to serve, and serves, are those of a fresh and of a served history. -/
theorem phaseAfter_eq_iff (history : List Step) :
    (phaseAfter history = .fresh ↔ Fresh history) ∧
      (phaseAfter history = .running ↔ Served history) := by
  induction history using List.reverseRecOn with
  | nil => exact ⟨by simp [phaseAfter, Fresh], by simp [phaseAfter, Served]⟩
  | append_singleton history step ih =>
    obtain ⟨hfresh, hserved⟩ := ih
    rw [phaseAfter_concat, fresh_concat, served_concat, ← hfresh, ← hserved]
    exact ⟨Phase.next_eq_fresh, Phase.next_eq_running⟩

instance (history : List Step) : Decidable (Served history) :=
  decidable_of_iff _ (phaseAfter_eq_iff history).2

namespace World

variable {working : List FileName} {files : FileTree} {settings : Settings}

theorem reached_settings (history : List Step) :
    (reached working files settings history).session.settings = settings := by
  induction history using List.reverseRecOn with
  | nil => rfl
  | append_singleton history step ih =>
    rw [reached_concat, step_session]
    exact (Session.heed_frame _ _ _).1.trans ih

theorem reached_phase (history : List Step) :
    (reached working files settings history).session.phase = phaseAfter history := by
  induction history using List.reverseRecOn with
  | nil => rfl
  | append_singleton history step ih =>
    rw [reached_concat, step_session, phaseAfter_concat, ih]

theorem reached_running {history : List Step} :
    (reached working files settings history).session.phase = .running ↔
      Served history := by
  rw [reached_phase]
  exact (phaseAfter_eq_iff history).2

theorem reached_files {history : List Step} (h : phaseAfter history ≠ .ended) :
    (reached working files settings history).files = files.following history := by
  induction history using List.reverseRecOn with
  | nil => rfl
  | append_singleton history step ih =>
    -- Files no longer change in an ended session, so it must not have ended before.
    have hbefore : phaseAfter history ≠ .ended := by
      intro hended
      rw [phaseAfter_concat, hended] at h
      exact h rfl
    rw [reached_concat, step_files working (by rwa [reached_phase]), ih hbefore]
    simp [FileTree.following]

end World

/-! ## The notifications that took effect -/

/-- The notifications that take effect in a row of steps, after the steps of a history. -/
def noticesAfter (history : List Step) : List Step → List ClientNotice
  | [] => []
  | step :: steps =>
    (if Served history then step.notice?.toList else []) ++ noticesAfter (history ++ [step]) steps

def notices (history : List Step) : List ClientNotice := noticesAfter [] history

theorem noticesAfter_concat (history steps : List Step) (step : Step) :
    noticesAfter history (steps ++ [step]) =
      noticesAfter history steps ++
        if Served (history ++ steps) then step.notice?.toList else [] := by
  induction steps generalizing history with
  | nil => simp [noticesAfter]
  | cons first steps ih =>
    rw [List.cons_append, noticesAfter, ih, noticesAfter, List.append_assoc, List.append_assoc,
      List.singleton_append]

theorem notices_concat (history : List Step) (step : Step) :
    notices (history ++ [step]) =
      notices history ++ if Served history then step.notice?.toList else [] :=
  noticesAfter_concat [] history step

end DawnServer
