import DawnServer.Document.Basic
import DawnServer.Proofs.Text.Units

/-!
# Offsets of places

Where a place lies is found line by line (`offset_of_unbroken`, `offset_line_zero`,
`offset_line_succ`).  The other way round, `Place.after` is the place that some
characters lead to; it lies right behind them in every text that they begin
(`offset_after`), unless the text goes on inside a break, and is not beyond the end of its
line (`exists_line_after`).
-/

namespace DawnServer

namespace Place

open Text

theorem offset_of_unbroken {content : Text} (h : Unbroken content) (line column : Nat) :
    offset ⟨line, column⟩ content =
      if line = 0 then charsWithin column content else content.length := by
  unfold offset
  rw [lines_of_unbroken h]
  cases line with
  | zero =>
    rw [offsetIn, withoutBreak_chars h, if_pos rfl]
  | succ line =>
    rw [offsetIn, offsetIn, if_neg (Nat.succ_ne_zero line)]
    simp [Line.chars, Break.chars]

theorem offset_line_zero {content : Text} (h : Unbroken content) {ending : Break}
    {rest : Text} (he : ending.Precedes rest) (column : Nat) :
    offset ⟨0, column⟩ (content ++ (ending.chars ++ rest)) = charsWithin column content := by
  unfold offset
  rw [lines_line h he, offsetIn, withoutBreak_chars h]

theorem offset_line_succ {content : Text} (h : Unbroken content) {ending : Break}
    {rest : Text} (he : ending.Precedes rest) (line column : Nat) :
    offset ⟨line + 1, column⟩ (content ++ (ending.chars ++ rest)) =
      content.length + ending.chars.length + offset ⟨line, column⟩ rest := by
  unfold offset
  rw [lines_line h he, offsetIn, Line.chars, List.length_append]

/-! ## The place behind a text -/

/-- The place that some characters lead to: the last of their lines, and the units that
stand in it. -/
def after (before : Text) : Place where
  line := (lines before).length - 1
  column := units ((lines before).getLast (lines_ne_nil before)).content

theorem after_of_unbroken {content : Text} (h : Unbroken content) :
    after content = ⟨0, units content⟩ := by
  simp [after, lines_of_unbroken h]

theorem after_line {content : Text} (h : Unbroken content) {ending : Break} {rest : Text}
    (he : ending.Precedes rest) :
    after (content ++ (ending.chars ++ rest)) =
      ⟨(after rest).line + 1, (after rest).column⟩ := by
  have hpos : 0 < (lines rest).length := List.length_pos_iff.2 (lines_ne_nil rest)
  simp only [after, lines_line h he, List.length_cons, mk.injEq]
  refine ⟨by omega, ?_⟩
  rw [List.getLast_cons (lines_ne_nil rest)]

theorem after_append_unbroken (before : Text) {word : Text} (h : Unbroken word) :
    after (before ++ word) = ⟨(after before).line, (after before).column + units word⟩ := by
  induction before using lines_induction with
  | last content hc =>
    have hboth : Unbroken (content ++ word) := unbroken_append.2 ⟨hc, h⟩
    rw [after_of_unbroken hboth, after_of_unbroken hc, units_append]
  | line content ending rest hc he ih =>
    have he' : ending.Precedes (rest ++ word) := by
      refine he.of_head? fun hlf => ?_
      cases rest with
      | nil => exact absurd hlf (head?_ne_lf_of_unbroken h)
      | cons d rest => exact hlf
    rw [List.append_assoc, List.append_assoc, after_line hc he', after_line hc he, ih]

/-- **The place behind some characters lies right behind them**, whatever follows, as
long as no break is cut in two. -/
theorem offset_after {before behind : Text} (h : ¬ CutsBreak before behind) :
    (after before).offset (before ++ behind) = before.length := by
  induction before using lines_induction with
  | last content hc =>
    rw [after_of_unbroken hc]
    induction behind using lines_induction with
    | last content' hc' =>
      have hboth : Unbroken (content ++ content') := unbroken_append.2 ⟨hc, hc'⟩
      rw [offset_of_unbroken hboth, if_pos rfl, charsWithin_units_append]
    | line content' ending rest hc' he _ =>
      have hboth : Unbroken (content ++ content') := unbroken_append.2 ⟨hc, hc'⟩
      rw [← List.append_assoc, offset_line_zero hboth he, charsWithin_units_append]
  | line content ending rest hc he ih =>
    obtain ⟨he', hrest⟩ := he.append h
    rw [after_line hc he, List.append_assoc, List.append_assoc, offset_line_succ hc he', ih hrest]
    simp only [List.length_append]
    omega

theorem exists_line_after {before behind : Text} (h : ¬ CutsBreak before behind) :
    ∃ line, (lines (before ++ behind))[(after before).line]? = some line ∧
      (after before).column ≤ units line.content := by
  induction before using lines_induction with
  | last content hc =>
    rw [after_of_unbroken hc]
    induction behind using lines_induction with
    | last content' hc' =>
      have hboth : Unbroken (content ++ content') := unbroken_append.2 ⟨hc, hc'⟩
      refine ⟨⟨content ++ content', .none⟩, by rw [lines_of_unbroken hboth]; rfl, ?_⟩
      rw [units_append]
      exact Nat.le_add_right _ _
    | line content' ending rest hc' he _ =>
      have hboth : Unbroken (content ++ content') := unbroken_append.2 ⟨hc, hc'⟩
      refine ⟨⟨content ++ content', ending⟩, ?_, ?_⟩
      · rw [← List.append_assoc, lines_line hboth he]
        rfl
      · rw [units_append]
        exact Nat.le_add_right _ _
  | line content ending rest hc he ih =>
    obtain ⟨he', hrest⟩ := he.append h
    rw [after_line hc he, List.append_assoc, List.append_assoc, lines_line hc he']
    exact ih hrest

/-! ## A line in its text -/

/-- A line of a text between what stands before it and what stands behind its content. -/
structure LineAt (text : Text) (n : Nat) (before content behind : Text) : Prop where
  cut : text = before ++ (content ++ behind)
  unbroken : Unbroken content
  /-- The line is the `n`-th, counted from zero, and `before` ends where it starts. -/
  place : after before = ⟨n, 0⟩
  starts : ¬ CutsBreak before (content ++ behind)
  /-- Only a break, or nothing, stands next to the line. -/
  left : ∀ c ∈ before.getLast?, isBreak c = true
  right : ∀ c ∈ behind.head?, isBreak c = true

theorem exists_lineAt {text : Text} {n : Nat} {content : Text}
    (h : (lineContents text)[n]? = some content) :
    ∃ before behind, LineAt text n before content behind := by
  induction text using lines_induction generalizing n with
  | last whole hw =>
    rw [lineContents_of_unbroken hw] at h
    obtain ⟨rfl, rfl⟩ : n = 0 ∧ whole = content := by simpa [List.getElem?_singleton] using h
    exact ⟨[], [], by simp, hw, after_of_unbroken unbroken_nil, by simp [CutsBreak], by simp, by simp⟩
  | line first ending rest hf he ih =>
    rw [lineContents_line hf he] at h
    cases n with
    | zero =>
      obtain rfl : first = content := by simpa using h
      obtain ⟨c, tail, hchars, hc⟩ := he.exists_cons
      refine ⟨[], ending.chars ++ rest, rfl, hf, after_of_unbroken unbroken_nil,
        by simp [CutsBreak], by simp, fun d hd => ?_⟩
      rw [hchars, List.cons_append, List.head?_cons, Option.mem_some_iff] at hd
      rwa [← hd]
    | succ n =>
      obtain ⟨before, behind, at_⟩ := ih (by simpa using h)
      obtain ⟨c, hend, hc, -⟩ := he.getLast?_chars
      have he' : ending.Precedes before := by
        refine he.of_head? fun hlf => ?_
        rw [at_.cut, List.head?_append, hlf]
        rfl
      refine ⟨first ++ (ending.chars ++ before), behind, ?_, at_.unbroken, ?_, ?_, ?_, at_.right⟩
      · rw [at_.cut]
        simp only [List.append_assoc]
      · rw [after_line hf he', at_.place]
      · have he'' : ending.Precedes (before ++ (content ++ behind)) := at_.cut ▸ he
        exact mt (cutsBreak_line_iff he'').1 at_.starts
      · intro d hd
        rw [← List.append_assoc, List.getLast?_append] at hd
        cases hlast : before.getLast? with
        | some c =>
          rw [hlast, Option.some_or] at hd
          exact at_.left d (hlast.trans hd)
        | none =>
          rw [hlast, Option.none_or, List.getLast?_append, hend, Option.some_or,
            Option.mem_some_iff] at hd
          rwa [← hd]

theorem offset_past_end {text : Text} {n : Nat} {content : Text}
    (h : (lineContents text)[n]? = some content) {column : Nat} (hc : units content ≤ column) :
    offset ⟨n, column⟩ text = offset ⟨n, units content⟩ text := by
  have hclamp : charsWithin column content = charsWithin (units content) content := by
    rw [charsWithin_of_units_le hc, charsWithin_of_units_le (Nat.le_refl _)]
  induction text using lines_induction generalizing n with
  | last whole hw =>
    rw [lineContents_of_unbroken hw] at h
    obtain ⟨rfl, rfl⟩ : n = 0 ∧ whole = content := by simpa [List.getElem?_singleton] using h
    rw [offset_of_unbroken hw, offset_of_unbroken hw, hclamp]
  | line first ending rest hf he ih =>
    rw [lineContents_line hf he] at h
    cases n with
    | zero =>
      obtain rfl : first = content := by simpa using h
      rw [offset_line_zero hf he, offset_line_zero hf he, hclamp]
    | succ n =>
      rw [offset_line_succ hf he, offset_line_succ hf he, ih (by simpa using h)]

namespace LineAt

variable {text before content behind : Text} {n : Nat}

theorem after_append (h : LineAt text n before content behind) {front : Text}
    (hf : Unbroken front) : after (before ++ front) = ⟨n, units front⟩ := by
  rw [after_append_unbroken before hf, h.place, Nat.zero_add]

theorem offset_end (h : LineAt text n before content behind) :
    offset ⟨n, units content⟩ text = (before ++ content).length := by
  have hwhole : ¬ CutsBreak (before ++ content) behind := by
    cases content with
    | nil => simpa using h.starts
    | cons c content => exact not_cutsBreak_of_last (List.cons_ne_nil c content) h.unbroken
  have hoffset := offset_after hwhole
  rwa [h.after_append h.unbroken, List.append_assoc, ← h.cut] at hoffset

end LineAt

end Place

end DawnServer
