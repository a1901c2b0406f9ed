import DawnServer.Proofs.Framework.Beside
import DawnServer.Proofs.Session.FillOnce
import DawnServer.Session.Reading

/-!
# Framework files and the documents beside them

Opening a document reads the framework file beside it, if its URI names a file in a directory,
and no file if it does not (`Session.wantedPath?_opening`).  So a document without a file leaves
the table of the session alone in every run, and one with a file can fill it, whatever scheme its
URI has (`framework_beside_named_files`).
-/

namespace DawnServer

def Message.opening (params : Json) : Message :=
  ⟨none, "textDocument/didOpen".toList, some params⟩

section

variable {params : Json} {uri : Url} {document : Document}

theorem Session.wantedPath?_opening (session : Session)
    (hread : documentParam? openedDocument? params = some (.opened uri document)) :
    session.wantedPath? (.opening params) = session.pathBeside? uri := by
  have hmethod : Method.ofName "textDocument/didOpen".toList =
      .notice (documentParam? openedDocument?) := Method.ofName_eq_notice.2 noticeReader?_didOpen
  simp only [wantedPath?, Message.opening, hmethod, hread]

theorem Session.pathBeside?_of_namesNoFile (session : Session) (h : uri.NamesNoFile) :
    session.pathBeside? uri = none := by
  rw [pathBeside?, Table.pathBeside_eq_error_iff.2 h]
  split <;> rfl

theorem Session.pathBeside?_of_empty {session : Session} (hempty : session.registry = .empty)
    {path : List UInt8} (hpath : Table.pathBeside uri = .ok path) :
    session.pathBeside? uri = some path := by
  rw [pathBeside?, hempty, hpath]
  rfl

theorem Table.pathBeside_of_scheme {path : List UInt8} (h : pathBeside uri = .ok path)
    (scheme : Text) : pathBeside { uri with scheme := scheme } = .ok path := by
  have hfile : ({ uri with scheme := scheme } : Url).filePath? = uri.filePath? := rfl
  rw [pathBeside] at h ⊢
  rw [hfile]
  cases hdirectory : uri.filePath? >>= parentPath? with
  | none =>
    rw [hdirectory] at h
    cases h
  | some directory =>
    rw [hdirectory] at h
    exact h

section Runs

variable {working : List FileName} {files : FileTree} {settings : Settings}
  {history : List Step}

theorem not_provides_of_namesNoFile
    (hread : documentParam? openedDocument? params = some (.opened uri document))
    (h : uri.NamesNoFile) (table : Table) (source : TableSource) :
    ¬ Provides working files history (.message (.opening params)) table source := by
  intro hprovides
  obtain ⟨-, received, hnotice, hoffer⟩ := provides_iff.1 hprovides
  have hopened : Step.notice? (.message (.opening params)) = some (.opened uri document) :=
    Step.notice?_eq_opened.2 ⟨params, rfl, hread⟩
  obtain rfl : .opened uri document = received := Option.some.inj (hopened.symm.trans hnotice)
  simp only [Session.offer?, Table.pathBeside_eq_error_iff.2 h] at hoffer
  cases hoffer

end Runs

end

/-- **Which documents have a framework file beside them.**  None has that names no file in a
directory: the file is looked for in vain, and in no run does the opening of such a document read
a file, or leave another table behind.  Any other has one, under the names of its path but for the
last, whatever its scheme is; in a session without a table its opening reads that file, and takes
the table in it. -/
theorem framework_beside_named_files (working : List FileName) (files : FileTree)
    (settings : Settings) (history : List Step) {params : Json} {uri : Url} {document : Document}
    (hread : documentParam? openedDocument? params = some (.opened uri document)) :
    (Table.pathBeside uri = .error (.notLocal uri) ↔ uri.NamesNoFile) ∧
    (uri.NamesNoFile →
      (World.reached working files settings history).session.wantedPath? (.opening params) = none ∧
      (∀ one other : FileReader,
        (World.reached working files settings history).session.turn? one (.opening params) =
          (World.reached working files settings history).session.turn? other (.opening params)) ∧
      World.registryAfter working files settings (history ++ [.message (.opening params)]) =
        World.registryAfter working files settings history) ∧
    (¬ uri.NamesNoFile → ∃ path,
      (∀ scheme, Table.pathBeside { uri with scheme := scheme } = .ok path) ∧
      FileTree.names path =
        (FileTree.names (Url.percentDecode uri.path)).dropLast ++ [Table.fileName] ∧
      (World.registryAfter working files settings history = .empty → Served history →
        (World.reached working files settings history).session.wantedPath? (.opening params) =
          some path ∧
        ∀ source, (files.following history).reader working path = .ok source →
          World.registryAfter working files settings (history ++ [.message (.opening params)]) =
            .filled (Table.parse source) .adjacentFile)) := by
  refine ⟨Table.pathBeside_eq_error_iff, fun hnone => ?_, fun hsome => ?_⟩
  · have hwanted : (World.reached working files settings history).session.wantedPath?
        (.opening params) = none := by
      rw [Session.wantedPath?_opening _ hread, Session.pathBeside?_of_namesNoFile _ hnone]
    refine ⟨hwanted, fun one other => ?_, ?_⟩
    · apply Session.turn?_congr
      rw [hwanted]
      intro path hpath
      cases hpath
    · exact World.registryAfter_of_not_provides (not_provides_of_namesNoFile hread hnone)
  · obtain ⟨hnone, -⟩ | ⟨-, path, hpath, hnames⟩ := Table.pathBeside_cases uri
    · exact absurd hnone hsome
    refine ⟨path, Table.pathBeside_of_scheme hpath, hnames, fun hempty hserved => ⟨?_, ?_⟩⟩
    · rw [Session.wantedPath?_opening _ hread, Session.pathBeside?_of_empty hempty hpath]
    · intro source hsource
      have hprovides : Provides working files history (.message (.opening params))
          (Table.parse source) .adjacentFile := .beside hserved hread hpath hsource
      rw [World.registryAfter_of_provides hprovides, hempty, Registry.provide_empty]

/-! ## A run

A framework file is laid, and a document that has not been saved is opened under a path of its
directory. -/

namespace Sample

def openParamsUnder (uri : String) : Json :=
  .object [("textDocument", .object [
    ("uri", .lit uri), ("languageId", .lit "dawn"), ("version", .int 1), ("text", .lit "jump")])]

/-- The URI of a document that has not been saved, under a path. -/
def unsaved : Url := ⟨"untitled".toList, none, "/p/a.dawn".toList, none, none⟩

/-- The URI of a document that has not been saved, without a path. -/
def unnamed : Url := ⟨"untitled".toList, none, "Untitled-1".toList, none, none⟩

end Sample

open Sample in
/-- A document without a path leaves the session without a table.  One that has a path, and is no
file either, gives it the table in the file beside that path. -/
theorem framework_beside_named_files_unsaved :
    documentParam? openedDocument? (openParamsUnder "untitled:Untitled-1") =
        some (.opened unnamed ⟨"jump".toList, 1⟩) ∧
      unnamed.NamesNoFile ∧
      (World.registryAfter [] FileTree.empty ⟨none, .exact, .off⟩
        ([start, lay] ++ [.message (.opening (openParamsUnder "untitled:Untitled-1"))])) =
          World.registryAfter [] FileTree.empty ⟨none, .exact, .off⟩ [start, lay] ∧
    documentParam? openedDocument? (openParamsUnder "untitled:/p/a.dawn") =
        some (.opened unsaved ⟨"jump".toList, 1⟩) ∧
      ¬ unsaved.NamesNoFile ∧
      (World.registryAfter [] FileTree.empty ⟨none, .exact, .off⟩
        ([start, lay] ++ [.message (.opening (openParamsUnder "untitled:/p/a.dawn"))])) =
          .filled (Table.parse "funcs:\njump\n;\n".toList) .adjacentFile := by
  have hunnamed : documentParam? openedDocument? (openParamsUnder "untitled:Untitled-1") =
      some (.opened unnamed ⟨"jump".toList, 1⟩) := by rfl
  have hunsaved : documentParam? openedDocument? (openParamsUnder "untitled:/p/a.dawn") =
      some (.opened unsaved ⟨"jump".toList, 1⟩) := by rfl
  have hnone : unnamed.NamesNoFile := .rootless (by decide)
  have hsome : ¬ unsaved.NamesNoFile := by
    rintro (hrootless | hremote | hnameless)
    · exact hrootless rfl
    · exact hremote (by decide)
    · revert hnameless
      decide +kernel
  have hempty : World.registryAfter [] FileTree.empty ⟨none, .exact, .off⟩ [start, lay] = .empty :=
    World.registryAfter_of_unprovided rfl unprovided
  have hserved : Served [start, lay] := by decide +kernel
  have hlies : Table.pathBeside unsaved = .ok (Utf8.encode "/p/framework.fw".toList) := by
    decide +kernel
  have hholds : (FileTree.empty.following [start, lay]).reader []
      (Utf8.encode "/p/framework.fw".toList) = .ok "funcs:\njump\n;\n".toList := by
    decide +kernel
  have hleft := framework_beside_named_files [] FileTree.empty ⟨none, .exact, .off⟩ [start, lay]
    hunnamed
  have htaken := framework_beside_named_files [] FileTree.empty ⟨none, .exact, .off⟩ [start, lay]
    hunsaved
  obtain ⟨path, hpath, -, hfills⟩ := htaken.2.2 hsome
  obtain rfl : Utf8.encode "/p/framework.fw".toList = path :=
    Except.ok.inj (hlies.symm.trans (hpath unsaved.scheme))
  exact ⟨hunnamed, hnone, (hleft.2.1 hnone).2.2, hunsaved, hsome,
    (hfills hempty hserved).2 _ hholds⟩

open Sample in
/-- A document of another scheme than that of files has a framework file beside it, and opening
it fills the registry from there. -/
theorem unsaved_document_has_framework_file :
    Url.parse? "untitled:/p/a.dawn".toList = some unsaved ∧
      unsaved.scheme ≠ "file".toList ∧
      Table.pathBeside unsaved = .ok (Utf8.encode "/p/framework.fw".toList) ∧
      (World.registryAfter [] FileTree.empty ⟨none, .exact, .off⟩
        [start, lay, .message (.opening (openParamsUnder "untitled:/p/a.dawn"))]).source? =
          some .adjacentFile := by
  refine ⟨by rfl, by decide, by decide +kernel, ?_⟩
  decide +kernel

end DawnServer
