import DawnServer.Text.Utf8

/-!
# Session logs

Each server process writes a log of its own.  Before it does, the logs of earlier
processes that are older than a week are removed from the directory of the logs, one
after the other as the system lists them.  Where the system does not answer or refuses,
the entry stays and the next one is looked at.
-/

namespace DawnServer

inductive EntryKind where
  | file
  | directory
  | link
  | other
  deriving Repr, DecidableEq

/-- An entry of the directory of the logs.  Times are in nanoseconds; the kind and the
time of the last change are missing where they cannot be found out. -/
structure LogEntry where
  name : List UInt8
  kind : Option EntryKind
  modified : Option Int
  deriving Repr, DecidableEq

/-- The directory of the logs, where no two entries have one name. -/
@[ext]
structure LogDirectory where
  entries : List LogEntry
  distinct : (entries.map (·.name)).Nodup

namespace LogDirectory

def empty : LogDirectory := ⟨[], .nil⟩

def find? (directory : LogDirectory) (name : List UInt8) : Option LogEntry :=
  directory.entries.find? (·.name == name)

def remove (directory : LogDirectory) (name : List UInt8) : LogDirectory :=
  ⟨directory.entries.filter (·.name ≠ name),
    directory.distinct.sublist (List.filter_sublist.map _)⟩

theorem notMem_remove (directory : LogDirectory) (name : List UInt8) :
    name ∉ (directory.remove name).entries.map (·.name) := by
  simp [remove]

def write (directory : LogDirectory) (entry : LogEntry) : LogDirectory :=
  ⟨entry :: (directory.remove entry.name).entries,
    List.nodup_cons.2 ⟨directory.notMem_remove entry.name, (directory.remove entry.name).distinct⟩⟩

/-- The directory that writing entries one after the other makes. -/
def ofEntries (entries : List LogEntry) : LogDirectory := entries.foldl write empty

end LogDirectory

/-- How the system answers in the course of a clean-up. -/
structure LogAccess where
  /-- The names of the entries as they are listed, with `none` for one that cannot be
  read; no list if the directory cannot be opened. -/
  listing : Option (List (Option (List UInt8)))
  /-- Whether the file of a name is not let go. -/
  refuses : List UInt8 → Bool

def LogAccess.full (directory : LogDirectory) : LogAccess :=
  ⟨some (directory.entries.map fun entry => some entry.name), fun _ => false⟩

/-- A clean-up under way: the directory, and the names of the logs that were to go and
that the system has not let go, for a report. -/
structure CleanUp where
  directory : LogDirectory
  failed : List (List UInt8)

namespace SessionLog

def nameStart : Text := "session-".toList

def nameEnd : Text := ".log".toList

def retention : Int := 7 * 24 * 60 * 60 * 1000000000

def isLogName (name : List UInt8) : Bool :=
  match Utf8.decode? name with
  | some name => Text.startsWith name nameStart && Text.endsWith name nameEnd
  | none => false

def isExpired (now : Int) (entry : LogEntry) : Bool :=
  entry.kind == some .file && isLogName entry.name &&
    match entry.modified with
    | some modified => retention < now - modified
    | none => false

end SessionLog

namespace CleanUp

/-- Looks at the next entry of the listing, by what stands under its name by then. -/
def visit (now : Int) (refuses : List UInt8 → Bool) (state : CleanUp)
    (listed : Option (List UInt8)) : CleanUp :=
  match listed.bind state.directory.find? with
  | none => state
  | some entry =>
    if SessionLog.isExpired now entry then
      if refuses entry.name then { state with failed := state.failed ++ [entry.name] }
      else { state with directory := state.directory.remove entry.name }
    else state

end CleanUp

/-- Removes the logs that have been kept long enough. -/
def LogDirectory.cleanUp (directory : LogDirectory) (now : Int) (access : LogAccess) : CleanUp :=
  match access.listing with
  | none => ⟨directory, []⟩
  | some listing => listing.foldl (CleanUp.visit now access.refuses) ⟨directory, []⟩

namespace SessionLog

/-- The entries that a clean-up leaves where the system lists them and refuses nothing. -/
def cleanUp (now : Int) (entries : List LogEntry) : List LogEntry :=
  let directory := LogDirectory.ofEntries entries
  (directory.cleanUp now (.full directory)).directory.entries

/-- The directory of the logs after logging has been set up, with the number of logs
that were added; no entries if it does not exist. -/
structure Setup where
  entries : Option (List LogEntry)
  added : Nat

/-- Sets logging up.  Only logging to a file touches the directory: it is made, cleaned
up, and a log of this process is added. -/
def setUp (toFile : Bool) (now : Int) (entries : Option (List LogEntry)) : Setup :=
  if toFile then ⟨some (cleanUp now (entries.getD [])), 1⟩ else ⟨entries, 0⟩

end SessionLog

end DawnServer
