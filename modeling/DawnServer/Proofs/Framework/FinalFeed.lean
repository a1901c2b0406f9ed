import DawnServer.Proofs.Framework.Composition
import Mathlib.Data.List.Induction

/-!
# A line feed at the end of a framework file

Lines are at rest when they are passed over or make up whole categories, each with its header and
the line that closes it (`FrameworkReader.AtRest`); any other lines leave a category open behind
such a row (`FrameworkReader.LeavesOpen`).  The reader follows this grammar
(`FrameworkReader.current_takeLines`).  A line feed at the end of a file is followed by an empty
line, which adds nothing to lines at rest, and an empty member to a category that is open
(`final_feed_adds_to_open_category`).
-/

namespace DawnServer

open Text

namespace FrameworkReader

/-! ## The grammar of files -/

/-- Whether a line opens a category of that name, where none is open: its first word is the name
with a colon, and the name is not empty. -/
def Opens (line name : Text) : Prop := firstWord line = name ++ [':'] ∧ name ≠ []

/-- Rows of lines behind which no category is open. -/
inductive AtRest : List Text → Prop
  | nil : AtRest []
  /-- A line that opens nothing is passed over. -/
  | pass {before : List Text} {line : Text} (rest : AtRest before)
      (passed : ∀ name, ¬ Opens line name) : AtRest (before ++ [line])
  /-- A category stands whole, up to the line that closes it. -/
  | category {before body : List Text} {header closing name : Text} (rest : AtRest before)
      (opens : Opens header name) (inside : ∀ line ∈ body, keepsOpen line = true)
      (closes : keepsOpen closing = false) : AtRest (before ++ header :: body ++ [closing])

/-- Rows of lines behind which a category is open: its header stands behind lines at rest, and
no line behind that closes it. -/
inductive LeavesOpen : List Text → Text → Prop
  | header {before body : List Text} {header name : Text} (rest : AtRest before)
      (opens : Opens header name) (inside : ∀ line ∈ body, keepsOpen line = true) :
      LeavesOpen (before ++ header :: body) name

variable {reader : FrameworkReader} {name : Text}

theorem current_take_of_opens (h : reader.current = none) {line : Text} (opens : Opens line name) :
    (reader.take (firstWord line)).current = some name := by
  obtain ⟨hword, hname⟩ := opens
  have hopen : name.isEmpty = false := List.isEmpty_eq_false_iff.2 hname
  rw [hword, FrameworkReader.take, h]
  simp only [dropLast?_append, hopen, Bool.false_eq_true, if_false]

theorem current_take_of_not_opens (h : reader.current = none) {line : Text}
    (passed : ∀ name, ¬ Opens line name) : (reader.take (firstWord line)).current = none := by
  rw [FrameworkReader.take, h]
  cases hdrop : dropLast? ':' (firstWord line) with
  | none => exact h
  | some name =>
    have hword : firstWord line = name ++ [':'] := dropLast?_eq_some.1 hdrop
    have hname : name = [] := by_contra fun hne => passed name ⟨hword, hne⟩
    simp only [hname, List.isEmpty_nil, if_true]

theorem current_take_of_open (h : reader.current = some name) (line : Text) :
    (reader.take (firstWord line)).current = if keepsOpen line then some name else none := by
  rw [FrameworkReader.take, h, keepsOpen]
  by_cases hclose : firstWord line = [';']
  · simp [hclose]
  · simp [hclose]

theorem takeLines_concat (reader : FrameworkReader) (lines : List Text) (line : Text) :
    reader.takeLines (lines ++ [line]) = (reader.takeLines lines).take (firstWord line) :=
  takeLines_append reader lines [line]

theorem current_takeLines_open (h : reader.current = some name) {lines : List Text}
    (inside : ∀ line ∈ lines, keepsOpen line = true) :
    (reader.takeLines lines).current = some name := by
  induction lines generalizing reader with
  | nil => exact h
  | cons line lines ih =>
    obtain ⟨hline, hrest⟩ := List.forall_mem_cons.1 inside
    refine ih ?_ hrest
    rw [current_take_of_open h, if_pos hline]

theorem AtRest.current {lines : List Text} (h : AtRest lines) :
    (start.takeLines lines).current = none := by
  induction h with
  | nil => rfl
  | pass _ passed ih =>
    rw [takeLines_concat]
    exact current_take_of_not_opens ih passed
  | category _ opens inside closes ih =>
    have hopen := current_takeLines_open (current_take_of_opens ih opens) inside
    rw [takeLines_concat, takeLines_append, takeLines_cons, current_take_of_open hopen,
      if_neg (by simp [closes])]

theorem LeavesOpen.current {lines : List Text} (h : LeavesOpen lines name) :
    (start.takeLines lines).current = some name := by
  obtain ⟨rest, opens, inside⟩ := h
  rw [takeLines_append, takeLines_cons]
  exact current_takeLines_open (current_take_of_opens rest.current opens) inside

/-- **Every row of lines is at rest or leaves a category open**, line by line. -/
theorem atRest_or_leavesOpen (lines : List Text) :
    AtRest lines ∨ ∃ name, LeavesOpen lines name := by
  -- From the end, since the last line alone decides what becomes of the row before it.
  induction lines using List.reverseRecOn with
  | nil => exact .inl .nil
  | append_singleton lines line ih =>
    rcases ih with hrest | ⟨name, hopen⟩
    · by_cases hopens : ∃ name, Opens line name
      · obtain ⟨name, hname⟩ := hopens
        exact .inr ⟨name, .header hrest hname (by simp)⟩
      · exact .inl (.pass hrest (not_exists.1 hopens))
    · obtain @⟨before, body, header, _, hrest, hheader, hbody⟩ := hopen
      cases hline : keepsOpen line with
      | true =>
        refine .inr ⟨name, ?_⟩
        rw [List.append_assoc, List.cons_append]
        refine .header hrest hheader fun other hother => ?_
        rcases List.mem_append.1 hother with hother | hother
        · exact hbody other hother
        · rwa [List.mem_singleton.1 hother]
      | false => exact .inl (.category hrest hheader hbody hline)

/-- **The reader follows the grammar.** -/
theorem current_takeLines (lines : List Text) :
    ((start.takeLines lines).current = none ↔ AtRest lines) ∧
      ∀ name, (start.takeLines lines).current = some name ↔ LeavesOpen lines name := by
  rcases atRest_or_leavesOpen lines with hrest | ⟨name, hopen⟩
  -- A row is of one of the two kinds, and what the reader holds tells which.
  · refine ⟨⟨fun _ => hrest, AtRest.current⟩, fun other => ⟨fun h => ?_, LeavesOpen.current⟩⟩
    rw [hrest.current] at h
    cases h
  · refine ⟨⟨fun h => ?_, AtRest.current⟩, fun other => ⟨fun h => ?_, LeavesOpen.current⟩⟩
    · rw [hopen.current] at h
      cases h
    · rw [hopen.current] at h
      cases h
      exact hopen

/-! ## One more line feed -/

theorem read_concat_feed (source : Text) : read (source ++ ['\n']) = (read source).take [] :=
  read_append source []

theorem take_nil_of_none (h : reader.current = none) : reader.take [] = reader := by
  rw [FrameworkReader.take, h]
  rfl

theorem take_nil_of_some (h : reader.current = some name) :
    (reader.take []).table = reader.table.append name [] := by
  rw [FrameworkReader.take, h]
  rfl

end FrameworkReader

namespace Table

open FrameworkReader (AtRest LeavesOpen)

theorem parse_concat_feed_of_atRest {source : Text} (h : AtRest (source.splitOn '\n')) :
    parse (source ++ ['\n']) = parse source := by
  have hcurrent : (FrameworkReader.read source).current = none := h.current
  rw [parse, FrameworkReader.read_concat_feed, FrameworkReader.take_nil_of_none hcurrent, parse]

theorem parse_concat_feed_of_leavesOpen {source name : Text}
    (h : LeavesOpen (source.splitOn '\n') name) :
    parse (source ++ ['\n']) = (parse source).append name [] := by
  have hcurrent : (FrameworkReader.read source).current = some name := h.current
  rw [parse, FrameworkReader.read_concat_feed, FrameworkReader.take_nil_of_some hcurrent, parse]

theorem append_ne {table : Table} {name : Text} (h : table.has name) (member : Text) :
    table.append name member ≠ table := by
  intro heq
  have hmembers := congrArg (·.members? name) heq
  simp only [append, members?_insert_self, members?_of_has h, Option.some.injEq] at hmembers
  have hlength := congrArg List.length hmembers
  rw [List.length_append, List.length_singleton] at hlength
  omega

end Table

open FrameworkReader (AtRest LeavesOpen) in
/-- **A line feed at the end of a file adds an empty member to a category that is open there**,
and nothing else.  It leaves the table as it is exactly if the lines before it are at rest; if
they leave a category open, that one takes an empty member at its end and the others stay as they
are.  In either case there are the same categories as without it. -/
theorem final_feed_adds_to_open_category (source : Text) :
    (AtRest (source.splitOn '\n') ∨ ∃ name, LeavesOpen (source.splitOn '\n') name) ∧
    (Table.parse (source ++ ['\n']) = Table.parse source ↔ AtRest (source.splitOn '\n')) ∧
    (∀ name, LeavesOpen (source.splitOn '\n') name → ∀ other,
      (Table.parse (source ++ ['\n'])).members? other =
        if name = other then some ((Table.parse source).members name ++ [[]])
        else (Table.parse source).members? other) ∧
    ∀ other, (Table.parse (source ++ ['\n'])).has other = (Table.parse source).has other := by
  have hcases := FrameworkReader.atRest_or_leavesOpen (source.splitOn '\n')
  have hgrown : ∀ name, LeavesOpen (source.splitOn '\n') name → ∀ other,
      (Table.parse (source ++ ['\n'])).members? other =
        if name = other then some ((Table.parse source).members name ++ [[]])
        else (Table.parse source).members? other := by
    intro name hopen other
    rw [Table.parse_concat_feed_of_leavesOpen hopen, Table.append, Table.members?_insert]
  refine ⟨hcases, ⟨fun heq => ?_, Table.parse_concat_feed_of_atRest⟩, hgrown, fun other => ?_⟩
  · rcases hcases with hrest | ⟨name, hopen⟩
    · exact hrest
    · rw [Table.parse_concat_feed_of_leavesOpen hopen] at heq
      exact absurd heq (Table.append_ne (FrameworkReader.has_of_open hopen.current) [])
  · rcases hcases with hrest | ⟨name, hopen⟩
    · rw [Table.parse_concat_feed_of_atRest hrest]
    · rw [Table.has, hgrown name hopen]
      split
      · next hname =>
        subst hname
        exact (FrameworkReader.has_of_open hopen.current).symm
      · rfl

open FrameworkReader (AtRest LeavesOpen) in
/-- Behind a category that is closed a line feed adds nothing.  One that is open takes an empty
member, and the category declared before it stays. -/
theorem final_feed_adds_to_open_category_last :
    (AtRest ("vars:\n$a\n;".toList.splitOn '\n') ∧
      Table.parse ("vars:\n$a\n;".toList ++ ['\n']) = Table.parse "vars:\n$a\n;".toList) ∧
    LeavesOpen ("vars:\n$a\n;\nfuncs:\nsay".toList.splitOn '\n') "funcs".toList ∧
      (Table.parse ("vars:\n$a\n;\nfuncs:\nsay".toList ++ ['\n'])).members? "funcs".toList =
        some ["say".toList, []] ∧
      (Table.parse ("vars:\n$a\n;\nfuncs:\nsay".toList ++ ['\n'])).members? "vars".toList =
        some ["$a".toList] := by
  have hrest : AtRest ("vars:\n$a\n;".toList.splitOn '\n') :=
    (FrameworkReader.current_takeLines _).1.1 (by decide +kernel)
  have hopen : LeavesOpen ("vars:\n$a\n;\nfuncs:\nsay".toList.splitOn '\n') "funcs".toList :=
    ((FrameworkReader.current_takeLines _).2 _).1 (by decide +kernel)
  have hgrown := (final_feed_adds_to_open_category
    "vars:\n$a\n;\nfuncs:\nsay".toList).2.2.1 _ hopen
  refine ⟨⟨hrest, (final_feed_adds_to_open_category _).2.1.2 hrest⟩, hopen, ?_, ?_⟩
  · rw [hgrown]
    decide +kernel
  · rw [hgrown]
    decide +kernel

/-- A file that ends with a name, and not with a break, declares one more member with a line feed
behind it. -/
theorem final_feed_adds_member :
    (∀ c ∈ "funcs:\nsay".toList.getLast?, isBreak c = false) ∧
      Table.parse "funcs:\nsay".toList = Table.ofList [("funcs".toList, ["say".toList])] ∧
      Table.parse ("funcs:\nsay".toList ++ ['\n']) =
        Table.ofList [("funcs".toList, ["say".toList, []])] ∧
      Table.parse ("funcs:\nsay".toList ++ ['\n']) ≠ Table.parse "funcs:\nsay".toList := by
  have hwithout : Table.parse "funcs:\nsay".toList =
      Table.ofList [("funcs".toList, ["say".toList])] := by
    decide +kernel
  have hwith : Table.parse ("funcs:\nsay".toList ++ ['\n']) =
      Table.ofList [("funcs".toList, ["say".toList, []])] := by
    decide +kernel
  refine ⟨fun c hc => ?_, hwithout, hwith, ?_⟩
  · obtain rfl : 'y' = c := Option.some.inj hc
    decide
  · rw [hwithout, hwith]
    decide +kernel

end DawnServer
