import DawnServer.Proofs.Text.Units
import DawnServer.Script.Token

/-!
# Words in their lines

A line is its last piece, or a piece with a space and a line behind it
(`pieces_induction`).  The words of a line stand alone in it, at the columns and with the
lengths that they carry as far as 32 bits hold them (`exists_stands_of_mem_ofLine`).  In a
line whose units 32 bits can count no column wraps (`toNat_next`), so its words come one
after the other (`pairwise_ofLine`).
-/

namespace DawnServer.Word

open Text

/-- Whether a character parts words: a space inside a line, a break between lines. -/
def parts (c : Char) : Bool := c == ' ' || isBreak c

/-- A stretch that no neighbour can join: it is not empty, nothing in it parts words, and
on either side it meets what does, or nothing. -/
structure Stands (before word behind : Text) : Prop where
  nonempty : word ≠ []
  solid : ∀ c ∈ word, parts c = false
  left : ∀ c ∈ before.getLast?, parts c = true
  right : ∀ c ∈ behind.head?, parts c = true

theorem Stands.unbroken {before word behind : Text} (h : Stands before word behind) :
    Unbroken word := by
  intro c hc
  have hparts := h.solid c hc
  rw [parts, Bool.or_eq_false_iff] at hparts
  exact hparts.2

/-- A stretch still stands alone when more text comes to the ends of its line, as long as
that text begins and ends with breaks next to the line. -/
theorem Stands.extend {front word back : Text} (h : Stands front word back)
    {before behind : Text} (hleft : ∀ c ∈ before.getLast?, isBreak c = true)
    (hright : ∀ c ∈ behind.head?, isBreak c = true) :
    Stands (before ++ front) word (back ++ behind) where
  nonempty := h.nonempty
  solid := h.solid
  left := by
    intro c hc
    rw [List.getLast?_append] at hc
    cases hfront : front.getLast? with
    | some d =>
      rw [hfront, Option.some_or] at hc
      exact h.left c (hfront.trans hc)
    | none =>
      rw [hfront, Option.none_or] at hc
      rw [parts, hleft c hc, Bool.or_true]
  right := by
    intro c hc
    rw [List.head?_append] at hc
    cases hback : back.head? with
    | some d =>
      rw [hback, Option.some_or] at hc
      exact h.right c (hback.trans hc)
    | none =>
      rw [hback, Option.none_or] at hc
      rw [parts, hright c hc, Bool.or_true]

/-- **Induction over the pieces of a line.**  A line is its last piece, or a piece with a
space and a line behind it. -/
@[elab_as_elim]
theorem pieces_induction {motive : Text → Prop}
    (last : ∀ piece, ' ' ∉ piece → motive piece)
    (space : ∀ piece rest, ' ' ∉ piece → motive rest → motive (piece ++ ' ' :: rest))
    (line : Text) : motive line := by
  -- The characters read so far of the piece that has begun come along as `front`.
  suffices h : ∀ front, ' ' ∉ front → motive (front ++ line) from h [] List.not_mem_nil
  induction line with
  | nil =>
    intro front hf
    rw [List.append_nil]
    exact last front hf
  | cons c line ih =>
    intro front hf
    by_cases hc : c = ' '
    · rw [hc]
      exact space front line hf (ih [] List.not_mem_nil)
    · have hfc : ' ' ∉ front ++ [c] := by
        simp [hf, Ne.symm hc]
      have h := ih (front ++ [c]) hfc
      rwa [List.append_assoc] at h

theorem placed_singleton (column : UInt32) (piece : Text) :
    placed column [piece] =
      if 0 < units32 piece then [⟨piece, column, units32 piece⟩] else [] := rfl

theorem placed_cons (column : UInt32) (piece : Text) (pieces : List Text) :
    placed column (piece :: pieces) =
      placed column [piece] ++ placed (column + (units32 piece + 1)) pieces := by
  rw [placed_singleton, placed]
  by_cases h : 0 < units32 piece
  · rw [if_pos h, if_pos h]
    rfl
  · rw [if_neg h, if_neg h]
    rfl

theorem eq_of_mem_placed_singleton {column : UInt32} {piece : Text} {word : Word}
    (h : word ∈ placed column [piece]) :
    word = ⟨piece, column, units32 piece⟩ ∧ piece ≠ [] := by
  rw [placed_singleton] at h
  by_cases hpos : 0 < units32 piece
  · rw [if_pos hpos, List.mem_singleton] at h
    refine ⟨h, ?_⟩
    rintro rfl
    exact absurd hpos (by decide)
  · rw [if_neg hpos] at h
    exact absurd h List.not_mem_nil

theorem solid_of_notMem {piece : Text} (hspace : ' ' ∉ piece) (hbreak : Unbroken piece) :
    ∀ c ∈ piece, parts c = false := by
  intro c hc
  rw [parts, hbreak c hc, Bool.or_false, beq_eq_false_iff_ne]
  rintro rfl
  exact hspace hc

theorem exists_stands_of_mem_placed {line : Text} (hline : Unbroken line) {column : UInt32}
    {word : Word} (h : word ∈ placed column (line.splitOn ' ')) :
    ∃ front back, line = front ++ (word.text ++ back) ∧
      word.start = column + units32 front ∧ word.length = units32 word.text ∧
      Stands front word.text back := by
  induction line using pieces_induction generalizing column with
  | last piece hp =>
    rw [List.splitOn_eq_singleton hp] at h
    obtain ⟨rfl, hne⟩ := eq_of_mem_placed_singleton h
    exact ⟨[], [], by simp, (UInt32.add_zero _).symm, rfl, hne, solid_of_notMem hp hline, by simp,
      by simp⟩
  | space piece rest hp ih =>
    obtain ⟨hpiece, hrest⟩ := unbroken_append.1 hline
    rw [List.splitOn_append_cons_self_of_not_mem hp, placed_cons, List.mem_append] at h
    rcases h with h | h
    · obtain ⟨rfl, hne⟩ := eq_of_mem_placed_singleton h
      exact ⟨[], ' ' :: rest, rfl, (UInt32.add_zero _).symm, rfl, hne, solid_of_notMem hp hpiece,
        by simp, by simp [parts]⟩
    · obtain ⟨front, back, hcut, hstart, hlength, hstands⟩ := ih (unbroken_cons.1 hrest).2 h
      refine ⟨piece ++ ' ' :: front, back, by simp [hcut], ?_, hlength,
        hstands.nonempty, hstands.solid, ?_, hstands.right⟩
      · have hspace : units32 [' '] = 1 := rfl
        rw [hstart, units32_append, ← List.singleton_append, units32_append, hspace]
        simp only [UInt32.add_assoc]
      · intro c hc
        rw [List.getLast?_append, List.getLast?_cons] at hc
        cases hfront : front.getLast? with
        | some d =>
          simp only [hfront, Option.getD_some, Option.some_or, Option.mem_some_iff] at hc
          exact hstands.left c (hfront.trans (congrArg some hc))
        | none =>
          simp only [hfront, Option.getD_none, Option.some_or, Option.mem_some_iff] at hc
          rw [← hc]
          rfl

/-- **The words of a line stand in it** at their columns, with their lengths. -/
theorem exists_stands_of_mem_ofLine {line : Text} (hline : Unbroken line) {word : Word}
    (h : word ∈ ofLine line) :
    ∃ front back, line = front ++ (word.text ++ back) ∧ word.start = units32 front ∧
      word.length = units32 word.text ∧ Stands front word.text back := by
  obtain ⟨front, back, hcut, hstart, hrest⟩ := exists_stands_of_mem_placed hline h
  exact ⟨front, back, hcut, hstart.trans (UInt32.zero_add _), hrest⟩

/-! ## Lines that 32 bits can count -/

section

variable {line piece rest : Text} {column : UInt32} {word : Word}

theorem units_space_cons (piece rest : Text) :
    units (piece ++ ' ' :: rest) = units piece + (1 + units rest) := by
  rw [units_append, units]
  rfl

theorem toNat_next (hfits : column.toNat + units (piece ++ ' ' :: rest) < 2 ^ 32) :
    (column + (units32 piece + 1)).toNat = column.toNat + units piece + 1 := by
  rw [units_space_cons] at hfits
  have hpiece : (units32 piece).toNat = units piece := toNat_units32 (by omega)
  have hone : (1 : UInt32).toNat = 1 := rfl
  have hwidth : (units32 piece + 1).toNat = units piece + 1 := by
    rw [toNat_add_of_lt (by omega), hpiece, hone]
  rw [toNat_add_of_lt (by omega), hwidth, Nat.add_assoc]

theorem next_fits (hfits : column.toNat + units (piece ++ ' ' :: rest) < 2 ^ 32) :
    (column + (units32 piece + 1)).toNat + units rest < 2 ^ 32 := by
  rw [toNat_next hfits]
  rw [units_space_cons] at hfits
  omega

theorem piece_fits (hfits : column.toNat + units (piece ++ ' ' :: rest) < 2 ^ 32) :
    column.toNat + units piece < 2 ^ 32 := by
  rw [units_space_cons] at hfits
  omega

theorem le_start_of_mem_placed (hfits : column.toNat + units line < 2 ^ 32)
    (h : word ∈ placed column (line.splitOn ' ')) : column.toNat ≤ word.start.toNat := by
  induction line using pieces_induction generalizing column with
  | last piece hp =>
    rw [List.splitOn_eq_singleton hp] at h
    obtain ⟨rfl, -⟩ := eq_of_mem_placed_singleton h
    exact Nat.le_refl _
  | space piece rest hp ih =>
    rw [List.splitOn_append_cons_self_of_not_mem hp, placed_cons, List.mem_append] at h
    rcases h with h | h
    · obtain ⟨rfl, -⟩ := eq_of_mem_placed_singleton h
      exact Nat.le_refl _
    · have hle := ih (next_fits hfits) h
      rw [toNat_next hfits] at hle
      omega

theorem pairwise_placed_singleton {R : Word → Word → Prop} (column : UInt32) (piece : Text) :
    (placed column [piece]).Pairwise R := by
  rw [placed_singleton]
  split
  · exact List.pairwise_singleton _ _
  · exact .nil

theorem pairwise_placed (hfits : column.toNat + units line < 2 ^ 32) :
    (placed column (line.splitOn ' ')).Pairwise fun a b =>
      a.start.toNat + a.length.toNat < b.start.toNat := by
  induction line using pieces_induction generalizing column with
  | last piece hp =>
    rw [List.splitOn_eq_singleton hp]
    exact pairwise_placed_singleton column piece
  | space piece rest hp ih =>
    rw [List.splitOn_append_cons_self_of_not_mem hp, placed_cons, List.pairwise_append]
    refine ⟨pairwise_placed_singleton column piece, ih (next_fits hfits), fun a ha b hb => ?_⟩
    obtain ⟨rfl, -⟩ := eq_of_mem_placed_singleton ha
    have hle := le_start_of_mem_placed (next_fits hfits) hb
    rw [toNat_next hfits] at hle
    have hpiece := piece_fits hfits
    have hlength : (units32 piece).toNat = units piece := toNat_units32 (by omega)
    show column.toNat + (units32 piece).toNat < b.start.toNat
    omega

theorem pairwise_ofLine (hfits : units line < 2 ^ 32) :
    (ofLine line).Pairwise fun a b => a.start.toNat + a.length.toNat < b.start.toNat := by
  have hzero : (0 : UInt32).toNat + units line < 2 ^ 32 := by
    rw [UInt32.toNat_zero, Nat.zero_add]
    exact hfits
  exact pairwise_placed hzero

theorem bounds_of_mem_ofLine (hline : Unbroken line) (hfits : units line < 2 ^ 32)
    (h : word ∈ ofLine line) :
    0 < word.length.toNat ∧ word.start.toNat + word.length.toNat ≤ units line := by
  obtain ⟨front, back, rfl, hstart, hlength, hstands⟩ := exists_stands_of_mem_ofLine hline h
  have hpos := units_pos hstands.nonempty
  rw [units_append, units_append] at hfits ⊢
  rw [hstart, hlength, toNat_units32 (by omega), toNat_units32 (by omega)]
  omega

end

end DawnServer.Word
