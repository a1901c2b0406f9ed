import DawnServer.Proofs.Framework.Canonical
import DawnServer.Proofs.Text.LineFeeds

/-!
# Framework files one after the other

What is read behind a table does to it what the same does to none: the categories that it
declares count, and the others stay as they were (`FrameworkReader.Over.takeLines`).  A category
that is open before takes the first words of the lines up to the one that closes it, and only
what follows declares categories (`FrameworkReader.members?_takeLines_open`).  For the texts of
two files this says what the one declares behind the other (`declarations_in_turn`).
-/

namespace DawnServer

open Text

namespace FrameworkReader

/-! ## Reading behind a table -/

/-- A reader that began with a table and another that began with none, after the same words:
the first has the categories of the second, and those of the table that the second does not
have.  A category that is open is one that the second has declared itself. -/
structure Over (base : Table) (whole part : FrameworkReader) : Prop where
  current : whole.current = part.current
  members? : ∀ name, whole.table.members? name =
    (part.table.members? name).or (base.members? name)
  declared : ∀ name ∈ part.current, part.table.has name

theorem Over.start (base : Table) : Over base ⟨base, none⟩ start :=
  ⟨rfl, fun _ => rfl, nofun⟩

theorem Over.insert {base : Table} {whole part : FrameworkReader} (h : Over base whole part)
    (name : Text) (members : List Text) {current : Option Text}
    (hcurrent : ∀ other ∈ current, other = name) :
    Over base ⟨whole.table.insert name members, current⟩
      ⟨part.table.insert name members, current⟩ := by
  refine ⟨rfl, fun other => ?_, fun other hother => ?_⟩
  · simp only [Table.members?_insert]
    split
    · rfl
    · exact h.members? other
  · rw [hcurrent other hother]
    exact part.table.has_insert name members

/-- **A word does the same behind a table as behind none.** -/
theorem Over.take {base : Table} {whole part : FrameworkReader} (h : Over base whole part)
    (word : Text) : Over base (whole.take word) (part.take word) := by
  obtain ⟨wholeTable, current⟩ := whole
  obtain ⟨partTable, partCurrent⟩ := part
  obtain rfl : current = partCurrent := h.current
  cases current with
  | some name =>
    by_cases hclose : word = [';']
    · simp only [FrameworkReader.take, if_pos hclose]
      refine ⟨rfl, h.members?, fun other hother => ?_⟩
      cases hother
    · -- The word is added to what the category has, which is the same in both tables.
      have hmembers : wholeTable.members name = partTable.members name := by
        have hdeclared := Table.members?_of_has (h.declared name rfl)
        have hname := h.members? name
        simp only [hdeclared, Option.some_or] at hname
        rw [Table.members, hname, Option.getD_some]
      simp only [FrameworkReader.take, if_neg hclose, Table.append, hmembers]
      exact h.insert name _ fun other hother => (Option.mem_some_iff.1 hother).symm
  | none =>
    cases hdrop : dropLast? ':' word with
    | none => simpa only [FrameworkReader.take, hdrop] using h
    | some name =>
      simp only [FrameworkReader.take, hdrop]
      refine h.insert name [] fun other hother => ?_
      split at hother
      · cases hother
      · exact (Option.mem_some_iff.1 hother).symm

theorem Over.takeLines {base : Table} {whole part : FrameworkReader} (h : Over base whole part)
    (lines : List Text) : Over base (whole.takeLines lines) (part.takeLines lines) := by
  induction lines generalizing whole part with
  | nil => exact h
  | cons line lines ih => exact ih (h.take (firstWord line))

theorem has_of_open {source name : Text} (h : (read source).current = some name) :
    (read source).table.has name :=
  ((Over.start Table.empty).takeLines (source.splitOn '\n')).declared name h

/-! ## Reading behind an open category -/

theorem members?_takeLines_closing (table : Table) (name : Text) {lines : List Text}
    (h : ∀ line ∈ lines.head?, keepsOpen line = false) (other : Text) :
    (takeLines ⟨table, some name⟩ lines).table.members? other =
      ((start.takeLines lines).table.members? other).or (table.members? other) := by
  cases lines with
  | nil => rfl
  | cons line lines =>
    have hline : firstWord line = [';'] := bne_eq_false_iff_eq.1 (h line rfl)
    have hclose : FrameworkReader.take ⟨table, some name⟩ [';'] = ⟨table, none⟩ := rfl
    have hpass : start.take [';'] = start := rfl
    rw [takeLines_cons, takeLines_cons, hline, hclose, hpass]
    exact ((Over.start table).takeLines lines).members? other

/-- **An open category** takes the first words of the lines up to the one that closes it, and the
rest of the lines declares categories behind that. -/
theorem members?_takeLines_open {table : Table} {name : Text} (h : table.has name)
    (lines : List Text) (other : Text) :
    (takeLines ⟨table, some name⟩ lines).table.members? other =
      ((start.takeLines (lines.dropWhile keepsOpen)).table.members? other).or
        (if name = other then
          some (table.members name ++ (lines.takeWhile keepsOpen).map firstWord)
        else table.members? other) := by
  have hleft : ∀ line ∈ lines.takeWhile keepsOpen, keepsOpen line = true :=
    fun _ => List.mem_takeWhile_imp
  have hclosing : ∀ line ∈ (lines.dropWhile keepsOpen).head?, keepsOpen line = false := by
    intro line hline
    have hhead := List.head?_dropWhile_not keepsOpen lines
    rwa [Option.mem_def.1 hline] at hhead
  have hcut : lines.takeWhile keepsOpen ++ lines.dropWhile keepsOpen = lines :=
    List.takeWhile_append_dropWhile
  calc (takeLines ⟨table, some name⟩ lines).table.members? other
      = ((takeLines ⟨table, some name⟩ (lines.takeWhile keepsOpen)).takeLines
          (lines.dropWhile keepsOpen)).table.members? other := by
        rw [← takeLines_append, hcut]
    _ = ((start.takeLines (lines.dropWhile keepsOpen)).table.members? other).or
          ((table.insert name (table.members name ++
            (lines.takeWhile keepsOpen).map firstWord)).members? other) := by
        rw [takeLines_open h hleft, members?_takeLines_closing _ _ hclosing]
    _ = _ := by
        rw [Table.members?_insert]

theorem read_append (a b : Text) :
    read (a ++ '\n' :: b) = (read a).takeLines (b.splitOn '\n') := by
  rw [read, read, List.splitOn_append_cons_self, takeLines_append]

end FrameworkReader

namespace Table

open FrameworkReader (keepsOpen firstWord)

/-- The words that a text adds to a category that is open before it: the first words of its
lines up to the first that closes the category. -/
def wordsWhileOpen (source : Text) : List Text :=
  ((source.splitOn '\n').takeWhile keepsOpen).map firstWord

def fromClosing (source : Text) : Text :=
  joinLines .lf ((source.splitOn '\n').dropWhile keepsOpen)

theorem parse_fromClosing (source : Text) :
    parse (fromClosing source) =
      (FrameworkReader.start.takeLines ((source.splitOn '\n').dropWhile keepsOpen)).table := by
  rw [parse, FrameworkReader.read, fromClosing]
  cases hlines : (source.splitOn '\n').dropWhile keepsOpen with
  | nil => rfl
  | cons line lines =>
    have hfeed : ∀ other ∈ line :: lines, '\n' ∉ other := by
      intro other hother
      rw [← hlines] at hother
      exact notMem_of_mem_splitOn ((List.dropWhile_suffix _).subset hother)
    rw [joinLines, Break.chars, List.splitOn_intercalate '\n' hfeed (List.cons_ne_nil line lines)]

end Table

/-- **What files declare in turn.**  Where no category is open at the end of a text, one behind
it declares its categories anew and leaves the others as they are.  Where a category is open,
it takes the first words of the text behind up to the line that closes it, and the rest of that
text declares its categories behind that. -/
theorem declarations_in_turn (a b : Text) :
    ((FrameworkReader.read a).current = none → ∀ name,
      (Table.parse (a ++ '\n' :: b)).members? name =
        ((Table.parse b).members? name).or ((Table.parse a).members? name)) ∧
    (∀ c, (FrameworkReader.read a).current = some c → ∀ name,
      (Table.parse (a ++ '\n' :: b)).members? name =
        ((Table.parse (Table.fromClosing b)).members? name).or
          (if c = name then some ((Table.parse a).members c ++ Table.wordsWhileOpen b)
          else (Table.parse a).members? name)) := by
  have hparse : Table.parse (a ++ '\n' :: b) =
      (FrameworkReader.takeLines ⟨Table.parse a, (FrameworkReader.read a).current⟩
        (b.splitOn '\n')).table := by
    rw [Table.parse, FrameworkReader.read_append]
    rfl
  constructor
  · intro hclosed name
    rw [hparse, hclosed]
    exact ((FrameworkReader.Over.start (Table.parse a)).takeLines (b.splitOn '\n')).members? name
  · intro c hopen name
    have hdeclared : (Table.parse a).has c := FrameworkReader.has_of_open hopen
    rw [hparse, hopen, FrameworkReader.members?_takeLines_open hdeclared, Table.parse_fromClosing]
    rfl

/-- A category that is declared again behind a text loses its members.  One that is left open
takes an empty line and what looks like a header, and is not the one declared behind them. -/
theorem declarations_in_turn_again :
    ((FrameworkReader.read "funcs:\nsay\n;\nvars:\n$a\n;".toList).current = none ∧
      (Table.parse ("funcs:\nsay\n;\nvars:\n$a\n;".toList ++ '\n' ::
        "funcs:\nask".toList)).members? "funcs".toList = some ["ask".toList] ∧
      (Table.parse ("funcs:\nsay\n;\nvars:\n$a\n;".toList ++ '\n' ::
        "funcs:\nask".toList)).members? "vars".toList = some ["$a".toList]) ∧
    (FrameworkReader.read "vars:\n$a".toList).current = some "vars".toList ∧
      (Table.parse ("vars:\n$a".toList ++ '\n' ::
        "\nfuncs: x\n;\nfuncs:\nask".toList)).members? "vars".toList =
          some ["$a".toList, [], "funcs:".toList] ∧
      (Table.parse ("vars:\n$a".toList ++ '\n' ::
        "\nfuncs: x\n;\nfuncs:\nask".toList)).members? "funcs".toList =
          some ["ask".toList] := by
  have hclosed : (FrameworkReader.read "funcs:\nsay\n;\nvars:\n$a\n;".toList).current = none := by
    decide +kernel
  have hopen : (FrameworkReader.read "vars:\n$a".toList).current = some "vars".toList := by
    decide +kernel
  have hbehind := (declarations_in_turn "funcs:\nsay\n;\nvars:\n$a\n;".toList
    "funcs:\nask".toList).1 hclosed
  have hgrown := (declarations_in_turn "vars:\n$a".toList
    "\nfuncs: x\n;\nfuncs:\nask".toList).2 _ hopen
  refine ⟨⟨hclosed, ?_, ?_⟩, hopen, ?_, ?_⟩
  · rw [hbehind]
    decide +kernel
  · rw [hbehind]
    decide +kernel
  · rw [hgrown]
    decide +kernel
  · rw [hgrown]
    decide +kernel

end DawnServer
