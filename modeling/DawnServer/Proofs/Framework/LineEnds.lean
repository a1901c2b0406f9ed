import DawnServer.Framework.Source
import DawnServer.Proofs.Text.Lines
import DawnServer.Proofs.Text.Trimming

/-!
# Line feeds with and without carriage returns

The lines of a framework file end at line feeds, and a carriage return before a line feed has no
say in the first word of its line: there it is white space at the end, or it stands behind the
word (`FrameworkReader.firstWord_eq`).  A table is given by the first words of the lines alone
(`Table.parse_congr`), so putting a carriage return before each line feed, or taking one from
before each line feed, leaves the table as it is (`carriage_returns_leave_table`).
-/

namespace DawnServer

namespace Text

def feedsAsCrlf : Text → Text
  | [] => []
  | '\n' :: text => '\r' :: '\n' :: feedsAsCrlf text
  | c :: text => c :: feedsAsCrlf text

def crlfAsFeeds : Text → Text
  | [] => []
  | '\r' :: '\n' :: text => '\n' :: crlfAsFeeds text
  | c :: text => c :: crlfAsFeeds text

theorem feedsAsCrlf_cons_of_ne {c : Char} (h : c ≠ '\n') (text : Text) :
    feedsAsCrlf (c :: text) = c :: feedsAsCrlf text := by
  rw [feedsAsCrlf]
  exact h

theorem crlfAsFeeds_cons {c : Char} {text : Text} (h : c = '\r' → text.head? ≠ some '\n') :
    crlfAsFeeds (c :: text) = c :: crlfAsFeeds text := by
  rw [crlfAsFeeds]
  rintro rest rfl rfl
  exact h rfl rfl

theorem feedsAsCrlf_append_of_notMem {line : Text} (h : '\n' ∉ line) (text : Text) :
    feedsAsCrlf (line ++ text) = line ++ feedsAsCrlf text := by
  induction line with
  | nil => rfl
  | cons c line ih =>
    obtain ⟨hc, hline⟩ := not_or.1 (mt List.mem_cons.2 h)
    rw [List.cons_append, feedsAsCrlf_cons_of_ne (Ne.symm hc), ih hline, List.cons_append]

theorem feedsAsCrlf_of_notMem {line : Text} (h : '\n' ∉ line) : feedsAsCrlf line = line := by
  have happend := feedsAsCrlf_append_of_notMem h []
  rwa [List.append_nil, feedsAsCrlf, List.append_nil] at happend

theorem feedsAsCrlf_line {line : Text} (h : '\n' ∉ line) (rest : Text) :
    feedsAsCrlf (line ++ '\n' :: rest) = (line ++ ['\r']) ++ '\n' :: feedsAsCrlf rest := by
  rw [feedsAsCrlf_append_of_notMem h, feedsAsCrlf]
  simp

theorem crlfAsFeeds_of_notMem {line : Text} (h : '\n' ∉ line) : crlfAsFeeds line = line := by
  induction line with
  | nil => rfl
  | cons c line ih =>
    obtain ⟨-, hline⟩ := not_or.1 (mt List.mem_cons.2 h)
    have hhead : line.head? ≠ some '\n' := fun hhead => hline (List.mem_of_mem_head? hhead)
    rw [crlfAsFeeds_cons fun _ => hhead, ih hline]

theorem crlfAsFeeds_line {line : Text} (h : '\n' ∉ line) (rest : Text) :
    crlfAsFeeds (line ++ '\n' :: rest) = dropLastOf '\r' line ++ '\n' :: crlfAsFeeds rest := by
  induction line with
  | nil => exact crlfAsFeeds_cons fun h => absurd h (by decide)
  | cons c line ih =>
    obtain ⟨hc, hline⟩ := not_or.1 (mt List.mem_cons.2 h)
    cases line with
    | nil =>
      by_cases hcr : c = '\r'
      · rw [hcr]
        rfl
      · have hkeep : dropLastOf '\r' [c] = [c] := by simp [dropLastOf, dropLast?, hcr]
        rw [hkeep, List.cons_append, crlfAsFeeds_cons fun h => absurd h hcr, ih hline]
        rfl
    | cons d line =>
      have hd : (d :: line ++ '\n' :: rest).head? ≠ some '\n' := by
        intro hhead
        exact hline (Option.some.inj hhead ▸ List.mem_cons_self)
      have hkeep : dropLastOf '\r' (c :: d :: line) = c :: dropLastOf '\r' (d :: line) := by
        cases hdrop : dropLast? '\r' (d :: line) <;> simp [dropLastOf, dropLast?, hdrop]
      rw [List.cons_append, crlfAsFeeds_cons fun _ => hd, ih hline, hkeep, List.cons_append]

end Text

open Text

namespace FrameworkReader

/-- **A carriage return at the end of a line is no part of its first word**, whether it is taken
off before the word is cut from the line or stays. -/
theorem firstWord_eq (line : Text) : firstWord line = trim (cut ' ' line).1 := by
  rw [firstWord, dropLastOf]
  cases hdrop : dropLast? '\r' line with
  | none => rfl
  | some front =>
    rw [dropLast?_eq_some.1 hdrop, Option.getD_some]
    by_cases hspace : ' ' ∈ front
    · rw [cut_append_of_mem hspace]
    · have hwhole : ' ' ∉ front ++ ['\r'] := by simpa using hspace
      have hblank : ∀ c ∈ ['\r'], isBlank c = true := List.forall_mem_singleton.2 rfl
      rw [cut_of_notMem hspace, cut_of_notMem hwhole, trim_append_blank front hblank]

theorem firstWord_concat_return (line : Text) : firstWord (line ++ ['\r']) = firstWord line := by
  rw [firstWord, dropLastOf_append, firstWord_eq line]

theorem firstWord_dropLastOf (line : Text) :
    firstWord (dropLastOf '\r' line) = firstWord line := by
  rw [firstWord_eq (dropLastOf '\r' line), firstWord]

def firstWords (source : Text) : List Text := (source.splitOn '\n').map firstWord

theorem firstWords_line {line : Text} (h : '\n' ∉ line) (rest : Text) :
    firstWords (line ++ '\n' :: rest) = firstWord line :: firstWords rest := by
  rw [firstWords, List.splitOn_append_cons_self_of_not_mem h, List.map_cons, firstWords]

theorem firstWords_feedsAsCrlf (source : Text) :
    firstWords (feedsAsCrlf source) = firstWords source := by
  induction source using separated_induction '\n' with
  | last line hline => rw [feedsAsCrlf_of_notMem hline]
  | next line rest hline ih =>
    have hreturn : '\n' ∉ line ++ ['\r'] := by simpa using hline
    rw [feedsAsCrlf_line hline, firstWords_line hreturn, ih, firstWord_concat_return,
      firstWords_line hline]

theorem firstWords_crlfAsFeeds (source : Text) :
    firstWords (crlfAsFeeds source) = firstWords source := by
  induction source using separated_induction '\n' with
  | last line hline => rw [crlfAsFeeds_of_notMem hline]
  | next line rest hline ih =>
    have hbare : '\n' ∉ dropLastOf '\r' line := fun h => hline (mem_of_mem_dropLastOf h)
    rw [crlfAsFeeds_line hline, firstWords_line hbare, ih, firstWord_dropLastOf,
      firstWords_line hline]

end FrameworkReader

open FrameworkReader (firstWords)

theorem Table.parse_congr {a b : Text} (h : firstWords a = firstWords b) : parse a = parse b := by
  have hread (source : Text) :
      FrameworkReader.read source =
        (firstWords source).foldl FrameworkReader.take FrameworkReader.start := by
    rw [firstWords, List.foldl_map]
    rfl
  rw [parse, parse, hread, hread, h]

/-- **Carriage returns before line feeds leave the table as it is.**  A text declares the same
table with a carriage return more before each of its line feeds, and with one less before each
line feed that has one. -/
theorem carriage_returns_leave_table (source : Text) :
    Table.parse (feedsAsCrlf source) = Table.parse source ∧
      Table.parse (crlfAsFeeds source) = Table.parse source :=
  ⟨Table.parse_congr (FrameworkReader.firstWords_feedsAsCrlf source),
    Table.parse_congr (FrameworkReader.firstWords_crlfAsFeeds source)⟩

/-- Several carriage returns, a line of one alone, and none behind the last line. -/
example : (feedsAsCrlf "funcs:\r\nsay \r\r\n\r\n;".toList, crlfAsFeeds "a\r\r\n\r".toList) =
    ("funcs:\r\r\nsay \r\r\r\n\r\r\n;".toList, "a\r\n\r".toList) := by decide +kernel

end DawnServer
