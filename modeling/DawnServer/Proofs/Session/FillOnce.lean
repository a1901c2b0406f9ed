import DawnServer.Proofs.Session.History

/-!
# The framework table of a session

A session fills its registry once.  With a framework path among the settings that is at the
start, whatever becomes of the file; without one it is at the first step that provides a table
(`Provides`), and until then the builtin table is in effect without being stored
(`framework_fills_once`).
-/

namespace DawnServer

/-- The step that follows a history provides a table: the client sends one, or opens a
document beside which there is a framework file at that moment. -/
inductive Provides (working : List FileName) (files : FileTree) (history : List Step) :
    Step → Table → TableSource → Prop
  | notified {params : Json} {table : Table} (served : Served history)
      (read : Table.ofJson? params = some table) :
      Provides working files history
        (.message ⟨none, "dawn/framework".toList, some params⟩) table .notification
  | beside {params : Json} {uri : Url} {document : Document} {path : List UInt8} {source : Text}
      (served : Served history)
      (read : documentParam? openedDocument? params = some (.opened uri document))
      (lies : Table.pathBeside uri = .ok path)
      (holds : (files.following history).reader working path = .ok source) :
      Provides working files history
        (.message ⟨none, "textDocument/didOpen".toList, some params⟩) (Table.parse source)
        .adjacentFile

def Unprovided (working : List FileName) (files : FileTree) (history : List Step) : Prop :=
  ∀ before step behind, history = before ++ step :: behind →
    ∀ table source, ¬ Provides working files before step table source

/-! ## One step -/

namespace Session

variable {files : FileReader} {session : Session}

def offer? (files : FileReader) : ClientNotice → Option (Table × TableSource)
  | .framework table => some (table, .notification)
  | .opened uri _ =>
    match Table.pathBeside uri with
    | .error _ => none
    | .ok path =>
      match files path with
      | .error _ => none
      | .ok source => some (Table.parse source, .adjacentFile)
  | _ => none

theorem adoptBeside_registry (uri : Url) (document : Document) :
    (adoptBeside files uri session).registry =
      match offer? files (.opened uri document) with
      | some (table, source) => session.registry.provide table source
      | none => session.registry := by
  unfold adoptBeside
  cases hfilled : session.registry.isFilled with
  | true =>
    rw [if_pos rfl]
    split
    · rw [Registry.provide_of_isFilled hfilled]
    · rfl
  | false =>
    rw [if_neg (by simp)]
    cases hpath : Table.pathBeside uri with
    | error cause => simp only [offer?, hpath]
    | ok path => cases hread : files path <;> simp only [offer?, hpath, Table.read, hread]

theorem notice_registry (received : ClientNotice) :
    (session.notice files received).1.registry =
      match offer? files received with
      | some (table, source) => session.registry.provide table source
      | none => session.registry := by
  cases received with
  | opened uri document => exact adoptBeside_registry uri document
  | changed uri changes version =>
    simp only [notice, changeDocument]
    repeat' split
    all_goals first | rfl | simp_all [offer?]
  | _ => rfl

theorem heed_registry_of_isFilled (h : session.registry.isFilled)
    (received : Option ClientNotice) : (session.heed files received).registry = session.registry := by
  unfold heed
  split
  · rw [notice_registry]
    split
    · exact Registry.provide_of_isFilled h _ _
    · rfl
  · rfl

end Session

section Runs

variable {working : List FileName} {files : FileTree} {settings : Settings}
  {history : List Step} {step : Step}

/-- **A step provides what its notification offers.**  The notification has to take effect,
and is held against the files of that moment. -/
theorem provides_iff {table : Table} {source : TableSource} :
    Provides working files history step table source ↔
      Served history ∧ ∃ received, step.notice? = some received ∧
        Session.offer? ((files.following history).reader working) received =
          some (table, source) := by
  constructor
  · intro h
    cases h with
    | @notified params _ served read =>
      exact ⟨served, .framework table, Step.notice?_eq_framework.2 ⟨params, rfl, read⟩, rfl⟩
    | @beside params uri document path source served read lies holds =>
      refine ⟨served, .opened uri document, Step.notice?_eq_opened.2 ⟨params, rfl, read⟩, ?_⟩
      simp only [Session.offer?, lies, holds]
  · rintro ⟨served, received, hnotice, hoffer⟩
    cases received with
    | framework offered =>
      obtain ⟨params, rfl, hread⟩ := Step.notice?_eq_framework.1 hnotice
      cases hoffer
      exact .notified served hread
    | opened uri document =>
      obtain ⟨params, rfl, hread⟩ := Step.notice?_eq_opened.1 hnotice
      simp only [Session.offer?] at hoffer
      split at hoffer
      · cases hoffer
      · split at hoffer
        · cases hoffer
        · cases hoffer
          exact .beside served hread ‹_› ‹_›
    | _ => cases hoffer

theorem unprovided_concat :
    Unprovided working files (history ++ [step]) ↔
      Unprovided working files history ∧
        ∀ table source, ¬ Provides working files history step table source := by
  constructor
  · intro h
    constructor
    · rintro before other behind rfl
      exact h before other (behind ++ [step]) (by simp)
    · exact h history step [] rfl
  · rintro ⟨hhistory, hstep⟩ before other behind heq
    obtain ⟨rfl, rfl, -⟩ | ⟨between, rfl, -⟩ := concat_eq_append_cons_iff.1 heq
    · exact hstep
    · exact hhistory before other between rfl

/-! ## Runs -/

namespace World

def registryAfter (working : List FileName) (files : FileTree) (settings : Settings)
    (history : List Step) : Registry :=
  (reached working files settings history).session.registry

theorem registryAfter_concat (history : List Step) (step : Step) :
    registryAfter working files settings (history ++ [step]) =
      ((reached working files settings history).session.heed
        ((reached working files settings history).files.reader working) step.notice?).registry := by
  unfold registryAfter
  rw [reached_concat, step_session]

theorem registryAfter_of_isFilled
    (h : (registryAfter working files settings history).isFilled) (steps : List Step) :
    registryAfter working files settings (history ++ steps) =
      registryAfter working files settings history := by
  induction steps using List.reverseRecOn with
  | nil => rw [List.append_nil]
  | append_singleton steps step ih =>
    have hfilled : (registryAfter working files settings (history ++ steps)).isFilled := by
      rw [ih]
      exact h
    rw [← List.append_assoc, registryAfter_concat, Session.heed_registry_of_isFilled hfilled]
    exact ih

theorem registryAfter_of_served (hserved : Served history) {received : ClientNotice}
    (hnotice : step.notice? = some received) :
    registryAfter working files settings (history ++ [step]) =
      match Session.offer? ((files.following history).reader working) received with
      | some (table, source) =>
        (registryAfter working files settings history).provide table source
      | none => registryAfter working files settings history := by
  have hrunning : (reached working files settings history).session.phase = .running :=
    reached_running.2 hserved
  have hfiles : (reached working files settings history).files = files.following history := by
    apply reached_files
    rw [(phaseAfter_eq_iff history).2.2 hserved]
    decide
  rw [registryAfter_concat, hnotice, Session.heed_of_running hrunning, Session.notice_registry,
    hfiles]
  rfl

theorem registryAfter_of_provides {table : Table} {source : TableSource}
    (h : Provides working files history step table source) :
    registryAfter working files settings (history ++ [step]) =
      (registryAfter working files settings history).provide table source := by
  obtain ⟨hserved, received, hnotice, hoffer⟩ := provides_iff.1 h
  rw [registryAfter_of_served hserved hnotice, hoffer]

theorem registryAfter_of_not_provides
    (h : ∀ table source, ¬ Provides working files history step table source) :
    registryAfter working files settings (history ++ [step]) =
      registryAfter working files settings history := by
  -- Either the step brings nothing, or what it brings offers nothing, or it does not count.
  by_cases hserved : Served history
  · cases hnotice : step.notice? with
    | none =>
      rw [registryAfter_concat, hnotice, Session.heed_none]
      rfl
    | some received =>
      rw [registryAfter_of_served hserved hnotice]
      cases hoffer : Session.offer? ((files.following history).reader working) received with
      | none => rfl
      | some offer =>
        exact absurd (provides_iff.2 ⟨hserved, received, hnotice, hoffer⟩) (h offer.1 offer.2)
  · have hidle : (reached working files settings history).session.phase ≠ .running :=
      fun hrunning => hserved (reached_running.1 hrunning)
    rw [registryAfter_concat, Session.heed_of_ne hidle]
    rfl

theorem registryAfter_of_unprovided (hpath : settings.frameworkPath = none)
    (h : Unprovided working files history) :
    registryAfter working files settings history = Registry.empty := by
  induction history using List.reverseRecOn with
  | nil =>
    show Session.startRegistry _ settings = _
    rw [Session.startRegistry, hpath]
  | append_singleton history step ih =>
    obtain ⟨hbefore, hstep⟩ := unprovided_concat.1 h
    rw [registryAfter_of_not_provides hstep]
    exact ih hbefore

end World

/-- **The framework table is filled once.**  A framework path among the settings decides the
table at the start: it is the one in the file, or the builtin one if the file cannot be read.
Without such a path no table is stored up to the first step that provides one, and that
table with its source stays. -/
theorem framework_fills_once (working : List FileName) (files : FileTree) (settings : Settings)
    (history : List Step) :
    (∀ path, settings.frameworkPath = some path →
      match Table.read (files.reader working) path with
      | .ok table =>
        (World.registryAfter working files settings history).source? = some .commandLine ∧
          (World.registryAfter working files settings history).table = table
      | .error _ =>
        (World.registryAfter working files settings history).source? = some .builtin ∧
          (World.registryAfter working files settings history).table = Table.builtin) ∧
    (settings.frameworkPath = none →
      (Unprovided working files history →
        (World.registryAfter working files settings history).source? = none ∧
          (World.registryAfter working files settings history).table = Table.builtin) ∧
      ∀ before step behind table source, history = before ++ step :: behind →
        Unprovided working files before → Provides working files before step table source →
          (World.registryAfter working files settings history).source? = some source ∧
            (World.registryAfter working files settings history).table = table) := by
  constructor
  · intro path hpath
    have hstart : World.registryAfter working files settings [] =
        match Table.read (files.reader working) path with
        | .ok table => Registry.filled table .commandLine
        | .error _ => Registry.filled Table.builtin .builtin := by
      show Session.startRegistry _ settings = _
      rw [Session.startRegistry, hpath]
      rfl
    have hstays : World.registryAfter working files settings history =
        World.registryAfter working files settings [] := by
      rw [← List.nil_append history]
      apply World.registryAfter_of_isFilled
      rw [hstart]
      cases Table.read (files.reader working) path <;> rfl
    rw [hstays, hstart]
    cases Table.read (files.reader working) path <;> exact ⟨rfl, rfl⟩
  · intro hpath
    constructor
    · intro hunprovided
      rw [World.registryAfter_of_unprovided hpath hunprovided]
      exact ⟨rfl, rfl⟩
    · rintro before step behind table source rfl hunprovided hprovides
      have hfilled : World.registryAfter working files settings (before ++ [step]) =
          Registry.filled table source := by
        rw [World.registryAfter_of_provides hprovides,
          World.registryAfter_of_unprovided hpath hunprovided]
        rfl
      have hstays : World.registryAfter working files settings (before ++ [step] ++ behind) =
          Registry.filled table source := by
        rw [World.registryAfter_of_isFilled, hfilled]
        rw [hfilled]
        rfl
      rw [List.append_cons, hstays]
      exact ⟨rfl, rfl⟩

end Runs

/-! ## A run

A framework file is laid beside a document before the document is opened, and the table that
the client sends afterwards comes too late. -/

namespace Sample

def start : Step :=
  .message ⟨some (.number 1), "initialize".toList, some (.object [("capabilities", .object [])])⟩

def lay : Step :=
  .write [(Utf8.encode "/p/framework.fw".toList, .file (Utf8.encode "funcs:\njump\n;\n".toList))]

def openParams : Json :=
  .object [("textDocument", .object [
    ("uri", .lit "file:///p/a.dawn"), ("languageId", .lit "dawn"), ("version", .int 1),
    ("text", .lit "jump")])]

def openScript : Step := .message ⟨none, "textDocument/didOpen".toList, some openParams⟩

def send : Step :=
  .message ⟨none, "dawn/framework".toList, some (.object [("funcs", .arr [.lit "walk"])])⟩

def table : Table := Table.ofList [("funcs".toList, ["jump".toList])]

theorem unprovided : Unprovided [] FileTree.empty [start, lay] := by
  have hnone : Unprovided [] FileTree.empty [] := by
    intro before step behind h
    simp at h
  have hstart : Unprovided [] FileTree.empty [start] := by
    refine unprovided_concat.2 ⟨hnone, fun table source h => ?_⟩
    have hserved : ¬ Served [] := by decide +kernel
    exact hserved (provides_iff.1 h).1
  refine unprovided_concat.2 ⟨hstart, fun table source h => ?_⟩
  obtain ⟨-, received, hnotice, -⟩ := provides_iff.1 h
  cases hnotice

theorem provides : Provides [] FileTree.empty [start, lay] openScript table .adjacentFile := by
  have hserved : Served [start, lay] := by decide +kernel
  have hread : documentParam? openedDocument? openParams =
      some (.opened ⟨"file".toList, some ⟨[], [], none⟩, "/p/a.dawn".toList, none, none⟩
        ⟨"jump".toList, 1⟩) := by rfl
  have htable : table = Table.parse "funcs:\njump\n;\n".toList := by decide +kernel
  have hlies : Table.pathBeside
      ⟨"file".toList, some ⟨[], [], none⟩, "/p/a.dawn".toList, none, none⟩ =
        .ok (Utf8.encode "/p/framework.fw".toList) := by decide +kernel
  have hholds : (FileTree.empty.following [start, lay]).reader []
      (Utf8.encode "/p/framework.fw".toList) = .ok "funcs:\njump\n;\n".toList := by
    decide +kernel
  rw [htable]
  exact .beside hserved hread hlies hholds

end Sample

open Sample in
theorem framework_fills_once_beside :
    Unprovided [] FileTree.empty [start, lay] ∧
      Provides [] FileTree.empty [start, lay] openScript table .adjacentFile ∧
      (World.registryAfter [] FileTree.empty ⟨none, .exact, .off⟩
        [start, lay, openScript, send]).source? = some .adjacentFile ∧
      (World.registryAfter [] FileTree.empty ⟨none, .exact, .off⟩
        [start, lay, openScript, send]).table = table :=
  ⟨unprovided, provides,
    ((framework_fills_once [] FileTree.empty ⟨none, .exact, .off⟩
      [start, lay, openScript, send]).2 rfl).2 [start, lay] openScript [send] table .adjacentFile
      rfl unprovided provides⟩

end DawnServer
