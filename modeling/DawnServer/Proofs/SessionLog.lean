import DawnServer.Proofs.Text.Utf8
import DawnServer.SessionLog
import Mathlib.Data.List.Nodup

/-!
# What a clean-up removes

A visit removes an expired log, reports it, or does nothing (`CleanUp.visit_cases`), so of the
directory it takes at most the entry of that name (`CleanUp.entries_visit`).  A clean-up then
leaves what one filter leaves, whatever the order of the listing and wherever the system fails
(`LogDirectory.entries_cleanUp`): all but the expired logs that it reaches
(`expired_logs_removed`).
-/

namespace DawnServer

namespace Text

theorem startsWith_iff {text lead : Text} : startsWith text lead = true ↔ lead <+: text := by
  rw [startsWith, Option.isSome_iff_exists]
  constructor
  · rintro ⟨rest, hrest⟩
    exact ⟨rest, (eq_append_of_dropLead? hrest).symm⟩
  · rintro ⟨rest, rfl⟩
    exact ⟨rest, dropLead?_append lead rest⟩

theorem endsWith_iff {text tail : Text} : endsWith text tail = true ↔ tail <:+ text := by
  rw [endsWith, startsWith_iff, List.reverse_prefix]

end Text

/-! ## Expired logs -/

/-- What a clean-up is for: a regular file with the name of a session log, last changed more than
seven days ago. -/
structure LogEntry.Expired (now : Int) (entry : LogEntry) : Prop where
  file : entry.kind = some .file
  named : ∃ name : Text, entry.name = Utf8.encode name ∧
    "session-".toList <+: name ∧ ".log".toList <:+ name
  old : ∃ modified, entry.modified = some modified ∧
    7 * 24 * 60 * 60 * 1000000000 < now - modified

namespace SessionLog

theorem isLogName_iff {name : List UInt8} : isLogName name = true ↔
    ∃ text : Text, name = Utf8.encode text ∧
      "session-".toList <+: text ∧ ".log".toList <:+ text := by
  rw [isLogName]
  constructor
  · intro h
    split at h
    · next text htext =>
      rw [Bool.and_eq_true, Text.startsWith_iff, Text.endsWith_iff] at h
      exact ⟨text, Utf8.decode?_eq_some.1 htext, h⟩
    · cases h
  · rintro ⟨text, hname, hends⟩
    rw [Utf8.decode?_eq_some.2 hname]
    exact Bool.and_eq_true_iff.2 ⟨Text.startsWith_iff.2 hends.1, Text.endsWith_iff.2 hends.2⟩

theorem isExpired_iff {now : Int} {entry : LogEntry} :
    isExpired now entry = true ↔ entry.Expired now := by
  rw [isExpired, Bool.and_eq_true, Bool.and_eq_true, beq_iff_eq, isLogName_iff]
  constructor
  · rintro ⟨⟨hfile, hnamed⟩, hold⟩
    split at hold
    · next modified hmodified =>
      exact ⟨hfile, hnamed, modified, hmodified, of_decide_eq_true hold⟩
    · cases hold
  · rintro ⟨hfile, hnamed, modified, hmodified, hold⟩
    rw [hmodified]
    exact ⟨⟨hfile, hnamed⟩, decide_eq_true hold⟩

end SessionLog

instance (now : Int) (entry : LogEntry) : Decidable (entry.Expired now) :=
  decidable_of_iff _ SessionLog.isExpired_iff

/-! ## One visit and all of them -/

namespace LogDirectory

def HoldsExpired (directory : LogDirectory) (now : Int) (name : List UInt8) : Prop :=
  ∃ entry ∈ directory.entries, entry.name = name ∧ entry.Expired now

theorem eq_of_name_eq (directory : LogDirectory) {a b : LogEntry} (ha : a ∈ directory.entries)
    (hb : b ∈ directory.entries) (h : a.name = b.name) : a = b :=
  List.inj_on_of_nodup_map directory.distinct ha hb h

theorem find?_eq_some {directory : LogDirectory} {name : List UInt8} {entry : LogEntry} :
    directory.find? name = some entry ↔ entry ∈ directory.entries ∧ entry.name = name := by
  rw [find?]
  constructor
  · intro h
    have hname : (entry.name == name) = true :=
      List.find?_some (p := fun entry : LogEntry => entry.name == name) h
    exact ⟨List.mem_of_find?_eq_some h, beq_iff_eq.1 hname⟩
  · rintro ⟨hentry, rfl⟩
    cases hfind : directory.entries.find? (·.name == entry.name) with
    | none =>
      have hnone := List.find?_eq_none.1 hfind entry hentry
      exact absurd (beq_self_eq_true entry.name) hnone
    | some found =>
      have hname : (found.name == entry.name) = true :=
        List.find?_some (p := fun other : LogEntry => other.name == entry.name) hfind
      rw [directory.eq_of_name_eq (List.mem_of_find?_eq_some hfind) hentry (beq_iff_eq.1 hname)]

end LogDirectory

namespace CleanUp

variable {now : Int} {refuses : List UInt8 → Bool} {state : CleanUp}

/-- The three things that a visit can do: remove an expired log, report it, or nothing where no
expired log stands under the name. -/
theorem visit_cases (now : Int) (refuses : List UInt8 → Bool) (state : CleanUp)
    (listed : Option (List UInt8)) :
    (∃ entry ∈ state.directory.entries, entry.Expired now ∧ listed = some entry.name ∧
      (refuses entry.name = false ∧ state.visit now refuses listed =
          { state with directory := state.directory.remove entry.name } ∨
        refuses entry.name = true ∧ state.visit now refuses listed =
          { state with failed := state.failed ++ [entry.name] })) ∨
    (∀ entry ∈ state.directory.entries, listed = some entry.name → ¬ entry.Expired now) ∧
      state.visit now refuses listed = state := by
  rw [visit]
  cases hfound : listed.bind state.directory.find? with
  | none =>
    refine .inr ⟨fun entry hentry hlisted => ?_, rfl⟩
    rw [hlisted, Option.bind_some, LogDirectory.find?_eq_some.2 ⟨hentry, rfl⟩] at hfound
    cases hfound
  | some entry =>
    obtain ⟨name, rfl, hname⟩ := Option.bind_eq_some_iff.1 hfound
    obtain ⟨hentry, rfl⟩ := LogDirectory.find?_eq_some.1 hname
    dsimp only
    split
    · next hexpired =>
      refine .inl ⟨entry, hentry, SessionLog.isExpired_iff.1 hexpired, rfl, ?_⟩
      split
      · next hrefused => exact .inr ⟨hrefused, rfl⟩
      · next hgranted => exact .inl ⟨Bool.not_eq_true _ ▸ hgranted, rfl⟩
    · next hkept =>
      refine .inr ⟨fun other hother hlisted => ?_, rfl⟩
      rw [← state.directory.eq_of_name_eq hentry hother (Option.some.inj hlisted)]
      exact mt SessionLog.isExpired_iff.2 hkept

/-- **A visit takes the entry of that name, if it is expired and let go, and no other.** -/
theorem entries_visit (listed : Option (List UInt8)) :
    (state.visit now refuses listed).directory.entries =
      state.directory.entries.filter fun entry =>
        ¬ (entry.Expired now ∧ listed = some entry.name ∧ refuses entry.name = false) := by
  symm
  obtain ⟨entry, hentry, hexpired, rfl, ⟨hgranted, hvisit⟩ | ⟨hrefused, hvisit⟩⟩ |
    ⟨hnone, hvisit⟩ := visit_cases now refuses state listed
  · rw [hvisit]
    refine List.filter_congr fun other hother => decide_eq_decide.2 (not_congr ?_)
    constructor
    · exact fun h => (Option.some.inj h.2.1).symm
    · intro hname
      rw [state.directory.eq_of_name_eq hother hentry hname]
      exact ⟨hexpired, rfl, hgranted⟩
  · rw [hvisit]
    refine List.filter_eq_self.2 fun other _ => decide_eq_true ?_
    rintro ⟨-, hname, hgranted⟩
    rw [← Option.some.inj hname, hrefused] at hgranted
    cases hgranted
  · rw [hvisit]
    refine List.filter_eq_self.2 fun other hother => decide_eq_true ?_
    exact fun h => hnone other hother h.2.1 h.1

theorem entries_foldl_visit (listing : List (Option (List UInt8))) :
    (listing.foldl (visit now refuses) state).directory.entries =
      state.directory.entries.filter fun entry =>
        ¬ (entry.Expired now ∧ some entry.name ∈ listing ∧ refuses entry.name = false) := by
  induction listing generalizing state with
  | nil =>
    refine (List.filter_eq_self.2 fun entry _ => decide_eq_true ?_).symm
    rintro ⟨-, hlisted, -⟩
    cases hlisted
  | cons listed listing ih =>
    rw [List.foldl_cons, ih, entries_visit, List.filter_filter]
    refine List.filter_congr fun entry _ => ?_
    rw [← Bool.decide_and, decide_eq_decide, List.mem_cons, eq_comm (a := some entry.name)]
    tauto

theorem mem_failed_visit {listed : Option (List UInt8)} {name : List UInt8} :
    name ∈ (state.visit now refuses listed).failed ↔
      name ∈ state.failed ∨ listed = some name ∧ refuses name = true ∧
        state.directory.HoldsExpired now name := by
  obtain ⟨entry, hentry, hexpired, rfl, ⟨hgranted, hvisit⟩ | ⟨hrefused, hvisit⟩⟩ |
    ⟨hnone, hvisit⟩ := visit_cases now refuses state listed
  · rw [hvisit]
    refine (or_iff_left ?_).symm
    rintro ⟨hname, hrefused, -⟩
    rw [← Option.some.inj hname, hgranted] at hrefused
    cases hrefused
  · rw [hvisit, List.mem_append, List.mem_singleton]
    refine or_congr_right ⟨?_, fun h => (Option.some.inj h.1).symm⟩
    rintro rfl
    exact ⟨rfl, hrefused, entry, hentry, rfl, hexpired⟩
  · rw [hvisit]
    refine (or_iff_left ?_).symm
    rintro ⟨rfl, -, entry, hentry, rfl, hexpired⟩
    exact hnone entry hentry rfl hexpired

theorem mem_failed_foldl_visit {listing : List (Option (List UInt8))} {name : List UInt8} :
    name ∈ (listing.foldl (visit now refuses) state).failed ↔
      name ∈ state.failed ∨ some name ∈ listing ∧ refuses name = true ∧
        state.directory.HoldsExpired now name := by
  induction listing generalizing state with
  | nil => exact (or_iff_left fun h => nomatch h.1).symm
  | cons listed listing ih =>
    -- What is not let go is not taken either, so later visits find it as this one does.
    have hstays : refuses name = true →
        ((state.visit now refuses listed).directory.HoldsExpired now name ↔
          state.directory.HoldsExpired now name) := by
      intro hrefused
      refine exists_congr fun entry => and_congr_left ?_
      rintro ⟨rfl, -⟩
      rw [entries_visit, List.mem_filter, decide_eq_true_eq, hrefused]
      simp
    rw [List.foldl_cons, ih, mem_failed_visit, and_congr_right hstays, or_assoc, ← or_and_right,
      List.mem_cons, eq_comm (a := some name)]

end CleanUp

/-! ## The clean-up -/

def LogAccess.Lists (access : LogAccess) (name : List UInt8) : Prop :=
  some name ∈ access.listing.getD []

def LogAccess.Reaches (access : LogAccess) (name : List UInt8) : Prop :=
  access.Lists name ∧ access.refuses name = false

instance (access : LogAccess) (name : List UInt8) : Decidable (access.Lists name) :=
  inferInstanceAs (Decidable (some name ∈ access.listing.getD []))

instance (access : LogAccess) (name : List UInt8) : Decidable (access.Reaches name) :=
  inferInstanceAs (Decidable (access.Lists name ∧ access.refuses name = false))

namespace LogDirectory

variable (directory : LogDirectory) (now : Int) (access : LogAccess)

theorem cleanUp_eq : directory.cleanUp now access =
    (access.listing.getD []).foldl (CleanUp.visit now access.refuses) ⟨directory, []⟩ := by
  rw [cleanUp]
  cases access.listing with
  | none => rfl
  | some listing => rfl

theorem entries_cleanUp : (directory.cleanUp now access).directory.entries =
    directory.entries.filter fun entry => ¬ (entry.Expired now ∧ access.Reaches entry.name) := by
  rw [cleanUp_eq, CleanUp.entries_foldl_visit]
  rfl

theorem mem_entries_cleanUp {directory : LogDirectory} {now : Int} {access : LogAccess}
    {entry : LogEntry} : entry ∈ (directory.cleanUp now access).directory.entries ↔
      entry ∈ directory.entries ∧ ¬ (entry.Expired now ∧ access.Reaches entry.name) := by
  rw [entries_cleanUp, List.mem_filter, decide_eq_true_eq]

theorem mem_failed_cleanUp {directory : LogDirectory} {now : Int} {access : LogAccess}
    {name : List UInt8} : name ∈ (directory.cleanUp now access).failed ↔
      access.Lists name ∧ access.refuses name = true ∧ directory.HoldsExpired now name := by
  rw [cleanUp_eq, CleanUp.mem_failed_foldl_visit]
  exact or_iff_right List.not_mem_nil

end LogDirectory

/-- **Expired logs removed.** A clean-up keeps an entry, as it is and in its place, unless it is
an expired log that the listing reaches and the system lets go, and reports those that the system
does not let go; where the whole directory is reached it leaves just the entries that are not
expired, and a second one at the same time leaves what the first one left. -/
theorem expired_logs_removed (directory : LogDirectory) (now : Int) (access : LogAccess) :
    (directory.cleanUp now access).directory.entries.Sublist directory.entries ∧
    (∀ entry ∈ directory.entries, entry ∈ (directory.cleanUp now access).directory.entries ↔
      ¬ (entry.Expired now ∧ access.Reaches entry.name)) ∧
    (∀ name, name ∈ (directory.cleanUp now access).failed ↔
      access.Lists name ∧ access.refuses name = true ∧ directory.HoldsExpired now name) ∧
    ((∀ entry ∈ directory.entries, access.Reaches entry.name) →
      ∀ entry ∈ directory.entries, entry ∈ (directory.cleanUp now access).directory.entries ↔
        ¬ entry.Expired now) ∧
    ∀ again : LogAccess,
      (∀ entry ∈ directory.entries, again.Reaches entry.name → access.Reaches entry.name) →
      ((directory.cleanUp now access).directory.cleanUp now again).directory =
        (directory.cleanUp now access).directory := by
  have hmem : ∀ entry ∈ directory.entries,
      entry ∈ (directory.cleanUp now access).directory.entries ↔
        ¬ (entry.Expired now ∧ access.Reaches entry.name) := fun entry hentry => by
    rw [LogDirectory.mem_entries_cleanUp]
    exact and_iff_right hentry
  refine ⟨?_, hmem, fun name => LogDirectory.mem_failed_cleanUp, fun hall entry hentry => ?_,
    fun again hagain => LogDirectory.ext ?_⟩
  · rw [LogDirectory.entries_cleanUp]
    exact List.filter_sublist
  · rw [hmem entry hentry, not_and]
    exact ⟨fun h hexpired => h hexpired (hall entry hentry), fun h hexpired => absurd hexpired h⟩
  · rw [LogDirectory.entries_cleanUp]
    refine List.filter_eq_self.2 fun entry hentry => decide_eq_true fun h => ?_
    obtain ⟨hbefore, hkept⟩ := LogDirectory.mem_entries_cleanUp.1 hentry
    exact hkept ⟨h.1, hagain entry hbefore h.2⟩

namespace LogDirectory

def aged (name : String) (kind : EntryKind) (seconds : Int) : LogEntry :=
  ⟨Utf8.encode name.toList, some kind, some (-seconds * 1000000000)⟩

/-- Logs on both sides of the limit and on the limit, one from the future, and old entries that
are no logs; the last name is not a text. -/
def mixed : LogDirectory := .ofEntries [
  aged "session-1.log" .file 691200, aged "session-2.log" .file 604801,
  aged "session-3.log" .file 604800, aged "session-4.log" .file (-60),
  aged "session-5.log" .directory 691200, aged "session-6.log" .link 691200,
  aged "notes.txt" .file 691200,
  ⟨Utf8.encode "session-".toList ++ 255 :: Utf8.encode ".log".toList, some .file,
    some (-691200 * 1000000000)⟩]

/-- The listing of the directory in the order in which its entries were written, with gaps, by a
system that does not let the given files go. -/
def mixedAccess (held : List String) : LogAccess where
  listing := some (none :: mixed.entries.reverse.map (some ·.name) ++ [none])
  refuses name := held.any fun text => Utf8.encode text.toList == name

end LogDirectory

theorem expired_logs_removed_mixed :
    (∀ entry ∈ LogDirectory.mixed.entries,
      entry ∈ (LogDirectory.mixed.cleanUp 0 (LogDirectory.mixedAccess [])).directory.entries ↔
        ¬ entry.Expired 0) ∧
    ((LogDirectory.mixed.cleanUp 0 (LogDirectory.mixedAccess [])).directory.cleanUp 0
        (LogDirectory.mixedAccess ["session-1.log"])).directory =
      (LogDirectory.mixed.cleanUp 0 (LogDirectory.mixedAccess [])).directory ∧
    (LogDirectory.mixed.entries.filter fun entry => entry.Expired 0) =
      [LogDirectory.aged "session-2.log" .file 604801,
        LogDirectory.aged "session-1.log" .file 691200] ∧
    (LogDirectory.mixed.cleanUp 0 (LogDirectory.mixedAccess ["session-2.log"])).failed =
      [Utf8.encode "session-2.log".toList] := by
  have hall : ∀ entry ∈ LogDirectory.mixed.entries,
      (LogDirectory.mixedAccess []).Reaches entry.name := by decide +kernel
  obtain ⟨-, -, -, hexact, hagain⟩ :=
    expired_logs_removed LogDirectory.mixed 0 (LogDirectory.mixedAccess [])
  refine ⟨hexact hall, hagain _ fun entry hentry _ => hall entry hentry, ?_, ?_⟩
  · decide +kernel
  · decide +kernel

end DawnServer
