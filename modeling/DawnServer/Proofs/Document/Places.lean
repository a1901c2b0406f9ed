import DawnServer.Document.Basic
import DawnServer.Proofs.Document.Offset
import Mathlib.Algebra.Group.Nat.Defs
import Mathlib.Data.Prod.Lex

/-!
# Places at which a text can be edited

A text can be edited at every index but those inside a break (`Text.Editable`).  Each such index
has one place of its own (`Place.Addresses`), and any other place means the last index whose own
place it does not come before (`Place.Addresses.le_offset_iff`).  A position is a place in numbers
of 32 bits, so it means an index exactly if the index's own place fits or is passed by the end of
the text (`Position.exists_offset_iff`).  All that the main statement says of positions and edits
follows from that (`positions_clamp_to_places`).
-/

namespace DawnServer

open Text

namespace Text

/-! ## Places -/

/-- Whether a text can be edited at an index: the index lies in the text, and not between a
carriage return and the line feed right behind it. -/
structure Editable (text : Text) (i : Nat) : Prop where
  within : i ≤ text.length
  whole : ¬ CutsBreak (text.take i) (text.drop i)

def lineStart (text : Text) (n : Nat) : Nat := (((lines text).take n).flatMap Line.chars).length

theorem editable_of_unbroken {content : Text} (h : Unbroken content) {i : Nat} :
    Editable content i ↔ i ≤ content.length := by
  refine ⟨Editable.within, fun hi => ⟨hi, fun hcut => ?_⟩⟩
  have hcr := h _ (List.take_subset i content (List.mem_of_mem_getLast? hcut.1))
  exact absurd hcr (by decide)

theorem lineStart_zero (text : Text) : lineStart text 0 = 0 := rfl

section

variable {content rest : Text} {ending : Break}

theorem take_line (j : Nat) :
    (content ++ (ending.chars ++ rest)).take (content.length + ending.chars.length + j) =
      content ++ (ending.chars ++ rest.take j) := by
  rw [Nat.add_assoc, List.take_length_add_append, List.take_length_add_append]

theorem drop_line (j : Nat) :
    (content ++ (ending.chars ++ rest)).drop (content.length + ending.chars.length + j) =
      rest.drop j := by
  rw [Nat.add_assoc, List.drop_length_add_append, List.drop_length_add_append]

theorem extract_line (j k : Nat) :
    (content ++ (ending.chars ++ rest)).extract
        (content.length + ending.chars.length + j) (content.length + ending.chars.length + k) =
      rest.extract j k := by
  rw [List.extract, drop_line, Nat.add_sub_add_left, List.extract]

theorem lineStart_line_succ (hc : Unbroken content) (he : ending.Precedes rest) (n : Nat) :
    lineStart (content ++ (ending.chars ++ rest)) (n + 1) =
      content.length + ending.chars.length + lineStart rest n := by
  rw [lineStart, lines_line hc he, List.take_succ_cons, List.flatMap_cons, List.length_append,
    Line.chars, List.length_append]
  rfl

theorem editable_line (hc : Unbroken content) (he : ending.Precedes rest) {i : Nat} :
    Editable (content ++ (ending.chars ++ rest)) i ↔
      i ≤ content.length ∨
        ∃ j, i = content.length + ending.chars.length + j ∧ Editable rest j := by
  have hlength : (content ++ (ending.chars ++ rest)).length =
      content.length + ending.chars.length + rest.length := by
    rw [List.length_append, List.length_append, Nat.add_assoc]
  have hbehind (j : Nat) : CutsBreak (content ++ (ending.chars ++ rest.take j)) (rest.drop j) ↔
      CutsBreak (rest.take j) (rest.drop j) :=
    cutsBreak_line_iff ((List.take_append_drop j rest).symm ▸ he)
  constructor
  · intro h
    have hwithin := h.within
    by_cases hi : i ≤ content.length
    · exact .inl hi
    · have hle : content.length + ending.chars.length ≤ i := by
        by_contra hlt
        -- Only between the two characters of a break is there an index inside it.
        have hinside : ending = .crlf ∧ i = content.length + 1 := by
          cases ending <;> simp [Break.chars] at hlt ⊢ <;> omega
        obtain ⟨rfl, rfl⟩ := hinside
        refine h.whole ⟨?_, ?_⟩
        · rw [List.take_length_add_append]
          simp [Break.chars]
        · rw [List.drop_length_add_append]
          simp [Break.chars]
      obtain ⟨j, rfl⟩ := Nat.exists_eq_add_of_le hle
      have hwhole := h.whole
      rw [take_line, drop_line, hbehind] at hwhole
      exact .inr ⟨j, rfl, by omega, hwhole⟩
  · rintro (hi | ⟨j, rfl, hj⟩)
    · refine ⟨by omega, fun hcut => ?_⟩
      have hcr := List.mem_of_mem_getLast? hcut.1
      rw [List.take_append_of_le_length hi] at hcr
      exact absurd (hc _ (List.take_subset i content hcr)) (by decide)
    · have hwithin := hj.within
      refine ⟨by omega, ?_⟩
      rw [take_line, drop_line, hbehind]
      exact hj.whole

end

end Text

namespace Place

/-! ## Places of their own -/

/-- Places are compared by their lines, and in one line by columns. -/
def key (place : Place) : ℕ ×ₗ ℕ := toLex (place.line, place.column)

theorem key_le_key {n m column reach : Nat} :
    (mk n column).key ≤ (mk m reach).key ↔ n < m ∨ n = m ∧ column ≤ reach :=
  Prod.Lex.toLex_le_toLex

theorem key_injective {p q : Place} (h : p.key = q.key) : p = q := by
  obtain ⟨n, column⟩ := p
  obtain ⟨m, reach⟩ := q
  obtain ⟨rfl, rfl⟩ := Prod.mk.inj (toLex_inj.1 h)
  rfl

/-- Whether a place is that of an index: the index lies in the line of the place and not behind
the content of that line, and the column is the number of units between the start of the line and
the index. -/
structure Addresses (text : Text) (place : Place) (i : Nat) : Prop where
  start_le : lineStart text place.line ≤ i
  le_end : ∃ line, (lines text)[place.line]? = some line ∧
    i ≤ lineStart text place.line + line.content.length
  column : place.column = units (text.extract (lineStart text place.line) i)

theorem addresses_mk {text : Text} {n column i : Nat} :
    Addresses text ⟨n, column⟩ i ↔
      lineStart text n ≤ i ∧
        (∃ line, (lines text)[n]? = some line ∧ i ≤ lineStart text n + line.content.length) ∧
        column = units (text.extract (lineStart text n) i) :=
  ⟨fun h => ⟨h.start_le, h.le_end, h.column⟩, fun h => ⟨h.1, h.2.1, h.2.2⟩⟩

theorem addresses_of_unbroken {content : Text} (h : Unbroken content) {n column i : Nat} :
    Addresses content ⟨n, column⟩ i ↔
      n = 0 ∧ i ≤ content.length ∧ column = units (content.take i) := by
  rw [addresses_mk, lines_of_unbroken h]
  cases n with
  | zero => simp [lineStart_zero, List.extract]
  | succ n => simp

section

variable {content rest : Text} {ending : Break}

theorem addresses_line_zero (hc : Unbroken content) (he : ending.Precedes rest)
    {column i : Nat} :
    Addresses (content ++ (ending.chars ++ rest)) ⟨0, column⟩ i ↔
      i ≤ content.length ∧ column = units (content.take i) := by
  rw [addresses_mk, lines_line hc he]
  simp only [lineStart_zero, List.getElem?_cons_zero, Option.some.injEq, exists_eq_left',
    Nat.zero_le, Nat.zero_add, true_and]
  refine and_congr_right fun hle => ?_
  rw [List.extract, List.drop_zero, Nat.sub_zero, List.take_append_of_le_length hle]

theorem addresses_line_succ (hc : Unbroken content) (he : ending.Precedes rest)
    {n column i : Nat} :
    Addresses (content ++ (ending.chars ++ rest)) ⟨n + 1, column⟩ i ↔
      ∃ j, i = content.length + ending.chars.length + j ∧ Addresses rest ⟨n, column⟩ j := by
  simp only [addresses_mk, lines_line hc he, List.getElem?_cons_succ, lineStart_line_succ hc he]
  constructor
  · rintro ⟨hstart, ⟨line, hline, hle⟩, hcolumn⟩
    obtain ⟨j, rfl⟩ := Nat.exists_eq_add_of_le (Nat.le_trans (Nat.le_add_right _ _) hstart)
    rw [extract_line] at hcolumn
    exact ⟨j, rfl, by omega, ⟨line, hline, by omega⟩, hcolumn⟩
  · rintro ⟨j, rfl, hstart, ⟨line, hline, hle⟩, hcolumn⟩
    refine ⟨by omega, ⟨line, hline, by omega⟩, ?_⟩
    rw [extract_line, hcolumn]

end

section

variable {text : Text}

theorem exists_addresses {i : Nat} (h : Editable text i) : ∃ p, Addresses text p i := by
  induction text using lines_induction generalizing i with
  | last content hc =>
    have hle := (editable_of_unbroken hc).1 h
    exact ⟨⟨0, units (content.take i)⟩, (addresses_of_unbroken hc).2 ⟨rfl, hle, rfl⟩⟩
  | line content ending rest hc he ih =>
    rcases (editable_line hc he).1 h with hle | ⟨j, rfl, hj⟩
    · exact ⟨⟨0, units (content.take i)⟩, (addresses_line_zero hc he).2 ⟨hle, rfl⟩⟩
    · obtain ⟨⟨n, column⟩, hp⟩ := ih hj
      exact ⟨⟨n + 1, column⟩, (addresses_line_succ hc he).2 ⟨j, rfl, hp⟩⟩

namespace Addresses

variable {p : Place} {i : Nat}

theorem exists_line (h : Addresses text p i) :
    ∃ line, (lines text)[p.line]? = some line ∧ p.column ≤ units line.content := by
  induction text using lines_induction generalizing p i with
  | last content hc =>
    obtain ⟨n, column⟩ := p
    obtain ⟨rfl, -, rfl⟩ := (addresses_of_unbroken hc).1 h
    refine ⟨⟨content, .none⟩, ?_, units_take_le content i⟩
    rw [lines_of_unbroken hc]
    rfl
  | line content ending rest hc he ih =>
    obtain ⟨n, column⟩ := p
    rw [lines_line hc he]
    cases n with
    | zero =>
      obtain ⟨-, rfl⟩ := (addresses_line_zero hc he).1 h
      exact ⟨⟨content, ending⟩, rfl, units_take_le content i⟩
    | succ n =>
      obtain ⟨j, -, hj⟩ := (addresses_line_succ hc he).1 h
      exact ih hj

theorem offset_eq (h : Addresses text p i) : p.offset text = i := by
  induction text using lines_induction generalizing p i with
  | last content hc =>
    obtain ⟨n, column⟩ := p
    obtain ⟨rfl, hle, rfl⟩ := (addresses_of_unbroken hc).1 h
    rw [offset_of_unbroken hc, if_pos rfl, charsWithin_units_take hle]
  | line content ending rest hc he ih =>
    obtain ⟨n, column⟩ := p
    cases n with
    | zero =>
      obtain ⟨hle, rfl⟩ := (addresses_line_zero hc he).1 h
      rw [offset_line_zero hc he, charsWithin_units_take hle]
    | succ n =>
      obtain ⟨j, rfl, hj⟩ := (addresses_line_succ hc he).1 h
      rw [offset_line_succ hc he, ih hj]

/-- **Any place means the last index whose own place it does not come before.** -/
theorem le_offset_iff (h : Addresses text p i) (q : Place) :
    i ≤ q.offset text ↔ p.key ≤ q.key := by
  obtain ⟨n, column⟩ := p
  obtain ⟨m, reach⟩ := q
  rw [key_le_key]
  induction text using lines_induction generalizing n m i with
  | last content hc =>
    obtain ⟨rfl, hle, rfl⟩ := (addresses_of_unbroken hc).1 h
    rw [offset_of_unbroken hc]
    split
    · rw [le_charsWithin_iff hle]
      omega
    · omega
  | line content ending rest hc he ih =>
    obtain ⟨c, tail, hchars, -⟩ := he.exists_cons
    have hlength : 0 < ending.chars.length := by simp [hchars]
    -- Columns count only if both are on the first line; if neither is, the rest decides.
    cases n with
    | zero =>
      obtain ⟨hle, rfl⟩ := (addresses_line_zero hc he).1 h
      cases m with
      | zero =>
        rw [offset_line_zero hc he, le_charsWithin_iff hle]
        omega
      | succ m =>
        rw [offset_line_succ hc he]
        omega
    | succ n =>
      obtain ⟨j, rfl, hj⟩ := (addresses_line_succ hc he).1 h
      cases m with
      | zero =>
        have hle := charsWithin_le_length reach content
        rw [offset_line_zero hc he]
        omega
      | succ m =>
        have hbehind := ih n hj m
        rw [offset_line_succ hc he]
        omega

theorem unique (h : Addresses text p i) {other : Place} (hother : Addresses text other i) :
    other = p := by
  refine key_injective (le_antisymm ?_ ?_)
  · rw [← hother.le_offset_iff, h.offset_eq]
  · rw [← h.le_offset_iff, hother.offset_eq]

end Addresses

theorem editable_offset (p : Place) (text : Text) : Editable text (p.offset text) := by
  induction text using lines_induction generalizing p with
  | last content hc =>
    rw [editable_of_unbroken hc, offset_of_unbroken hc]
    split
    · exact charsWithin_le_length _ _
    · exact Nat.le_refl _
  | line content ending rest hc he ih =>
    rw [editable_line hc he]
    obtain ⟨n, column⟩ := p
    cases n with
    | zero =>
      rw [offset_line_zero hc he]
      exact .inl (charsWithin_le_length _ _)
    | succ n =>
      rw [offset_line_succ hc he]
      exact .inr ⟨_, rfl, ih ⟨n, column⟩⟩

theorem offset_le_offset {p q : Place} (h : p.key ≤ q.key) (text : Text) :
    p.offset text ≤ q.offset text := by
  obtain ⟨own, hown⟩ := exists_addresses (editable_offset p text)
  have hle : own.key ≤ p.key := (hown.le_offset_iff p).1 (Nat.le_refl _)
  exact (hown.le_offset_iff q).2 (hle.trans h)

theorem offset_of_length_le {place : Place} (h : (lines text).length ≤ place.line) :
    place.offset text = text.length := by
  obtain ⟨n, column⟩ := place
  induction text using lines_induction generalizing n with
  | last content hc =>
    rw [lines_of_unbroken hc] at h
    have hn : n ≠ 0 := Nat.ne_of_gt h
    rw [offset_of_unbroken hc, if_neg hn]
  | line content ending rest hc he ih =>
    rw [lines_line hc he, List.length_cons] at h
    cases n with
    | zero => exact absurd h (Nat.not_succ_le_zero _)
    | succ n =>
      rw [offset_line_succ hc he, ih n (Nat.le_of_succ_le_succ h), List.length_append,
        List.length_append, Nat.add_assoc]

theorem addresses_lineStart {n : Nat} (h : n < (lines text).length) :
    Addresses text ⟨n, 0⟩ (lineStart text n) := by
  refine ⟨Nat.le_refl _, ⟨_, List.getElem?_eq_getElem h, Nat.le_add_right _ _⟩, ?_⟩
  rw [List.extract, Nat.sub_self, List.take_zero]
  rfl

end

end Place

/-! ## Positions of 32 bits -/

/-- Whether 32 bits are enough for a line and a column. -/
structure Place.Fits32 (place : Place) : Prop where
  line : place.line < 2 ^ 32
  column : place.column < 2 ^ 32

theorem Place.Addresses.fits32 {text : Text} {place : Place} {i : Nat}
    (h : place.Addresses text i) (hlines : (lines text).length ≤ 2 ^ 32)
    (hunits : ∀ line ∈ lines text, units line.content < 2 ^ 32) : place.Fits32 := by
  obtain ⟨line, hget, hcolumn⟩ := h.exists_line
  have hline := (List.getElem?_eq_some_iff.1 hget).1
  have hcontent := hunits line (List.mem_of_getElem? hget)
  exact ⟨by omega, by omega⟩

namespace Position

def key (position : Position) : ℕ ×ₗ ℕ := position.place.key

theorem place_injective {p q : Position} (h : p.place = q.place) : p = q := by
  obtain ⟨n, column⟩ := p
  obtain ⟨m, reach⟩ := q
  obtain ⟨hline, hcolumn⟩ := Place.mk.inj h
  obtain rfl : n = m := UInt32.toNat_inj.1 hline
  obtain rfl : column = reach := UInt32.toNat_inj.1 hcolumn
  rfl

theorem exists_place_eq {place : Place} (h : place.Fits32) : ∃ p : Position, p.place = place := by
  have hline : (UInt32.ofNat place.line).toNat = place.line := UInt32.toNat_ofNat_of_lt' h.line
  have hcolumn : (UInt32.ofNat place.column).toNat = place.column :=
    UInt32.toNat_ofNat_of_lt' h.column
  exact ⟨⟨.ofNat place.line, .ofNat place.column⟩, congr (congrArg Place.mk hline) hcolumn⟩

variable {text : Text} {own : Place} {i : Nat}

theorem fits32_of_offset_eq {p : Position} (h : own.Addresses text i)
    (hline : p.place.line < (lines text).length) (hoffset : p.offset text = i) : own.Fits32 := by
  have hown : own.key ≤ p.place.key := (h.le_offset_iff p.place).1 (Nat.le_of_eq hoffset.symm)
  have hstart := Place.addresses_lineStart hline
  -- The start of the line of `p` is not behind the index, so it is not behind the index's place.
  have hle : lineStart text p.place.line ≤ i := by
    rw [← hoffset]
    exact (hstart.le_offset_iff p.place).2 (Place.key_le_key.2 (.inr ⟨rfl, Nat.zero_le _⟩))
  have hbehind : (Place.mk p.place.line 0).key ≤ own.key := by
    rw [← hstart.le_offset_iff, h.offset_eq]
    exact hle
  obtain ⟨n, column⟩ := own
  have hn : p.line.toNat < n ∨ p.line.toNat = n ∧ 0 ≤ column := Place.key_le_key.1 hbehind
  have hcolumn : n < p.line.toNat ∨ n = p.line.toNat ∧ column ≤ p.column.toNat :=
    Place.key_le_key.1 hown
  have hbound := p.line.toNat_lt
  have hreach := p.column.toNat_lt
  refine ⟨?_, ?_⟩
  · show n < 2 ^ 32
    omega
  · show column < 2 ^ 32
    omega

/-- **Which indices a position can mean:** those whose own place fits, and the end of a text in
which there is a line number past the last. -/
theorem exists_offset_iff (h : own.Addresses text i) :
    (∃ p : Position, p.offset text = i) ↔
      own.Fits32 ∨ i = text.length ∧ (lines text).length < 2 ^ 32 := by
  constructor
  · rintro ⟨p, hp⟩
    by_cases hline : p.place.line < (lines text).length
    · exact .inl (fits32_of_offset_eq h hline hp)
    · have hpast : (lines text).length ≤ p.place.line := Nat.le_of_not_lt hline
      refine .inr ⟨hp.symm.trans (Place.offset_of_length_le hpast), ?_⟩
      exact Nat.lt_of_le_of_lt hpast p.line.toNat_lt
  · rintro (hfits | ⟨rfl, hlines⟩)
    · obtain ⟨p, hp⟩ := exists_place_eq hfits
      exact ⟨p, by rw [offset, hp, h.offset_eq]⟩
    · have hfits : (Place.mk (lines text).length 0).Fits32 := ⟨hlines, Nat.two_pow_pos 32⟩
      obtain ⟨p, hp⟩ := exists_place_eq hfits
      exact ⟨p, Place.offset_of_length_le (by rw [hp])⟩

end Position

/-! ## Edits -/

namespace Document

theorem edit_swap (text : Text) (range : Range) (replacement : Text) :
    edit text ⟨some ⟨range.stop, range.start⟩, replacement⟩ =
      edit text ⟨some range, replacement⟩ := by
  simp only [edit, splice, Nat.min_comm, Nat.max_comm]

theorem exists_edit (text : Text) (range : Range) :
    ∃ i j, i ≤ j ∧ Editable text i ∧ Editable text j ∧
      ∀ replacement, edit text ⟨some range, replacement⟩ =
        text.take i ++ replacement ++ text.drop j := by
  have hstart := Place.editable_offset range.start.place text
  have hstop := Place.editable_offset range.stop.place text
  refine ⟨min (range.start.offset text) (range.stop.offset text),
    max (range.start.offset text) (range.stop.offset text), by omega, ?_, ?_, fun _ => rfl⟩
  · rcases Nat.le_total (range.start.offset text) (range.stop.offset text) with hle | hle
    · rwa [Nat.min_eq_left hle]
    · rwa [Nat.min_eq_right hle]
  · rcases Nat.le_total (range.start.offset text) (range.stop.offset text) with hle | hle
    · rwa [Nat.max_eq_right hle]
    · rwa [Nat.max_eq_left hle]

end Document

/-- **Positions clamp to the places at which a text can be edited.**  A later position means no
earlier index, and every position means one at which the text can be edited: it lies in the text
and not inside a break.  Each such index has one place of its own, which counts its line and the
units between the start of that line and the index; this place leads back to the index, and any
position means the last index whose own place it does not come before.  So a range means the same
with its ends exchanged, and what an edit replaces lies in the text and neither begins nor ends
inside a break.  An index is meant by a position if 32 bits hold its own place, and the end of the
text also if they hold the number of a line past the last; so where they are enough for the lines
and for their units, all these indices are meant, each by a position of its own. -/
theorem positions_clamp_to_places (text : Text) :
    (∀ p q : Position, p.key ≤ q.key → p.offset text ≤ q.offset text) ∧
    (∀ p : Position, Text.Editable text (p.offset text)) ∧
    (∀ i, Text.Editable text i → ∃ own : Place,
      (∀ place, Place.Addresses text place i ↔ place = own) ∧ own.offset text = i ∧
        (∀ p : Position, i ≤ p.offset text ↔ own.key ≤ p.key) ∧
        ((∃ p : Position, p.offset text = i) ↔
          own.Fits32 ∨ i = text.length ∧ (Text.lines text).length < 2 ^ 32)) ∧
    (∀ range replacement,
      Document.edit text ⟨some ⟨range.stop, range.start⟩, replacement⟩ =
        Document.edit text ⟨some range, replacement⟩) ∧
    (∀ range, ∃ i j, i ≤ j ∧ Text.Editable text i ∧ Text.Editable text j ∧
      ∀ replacement, Document.edit text ⟨some range, replacement⟩ =
        text.take i ++ replacement ++ text.drop j) ∧
    ((Text.lines text).length ≤ 2 ^ 32 →
      (∀ line ∈ Text.lines text, Text.units line.content < 2 ^ 32) →
      (∀ i, (∃ p : Position, p.offset text = i) ↔ Text.Editable text i) ∧
      ∀ i, Text.Editable text i → ∃ own : Position,
        (∀ p : Position, Place.Addresses text p.place i ↔ p = own) ∧ own.offset text = i ∧
          ∀ p : Position, i ≤ p.offset text ↔ own.key ≤ p.key) := by
  have hmeant : (Text.lines text).length ≤ 2 ^ 32 →
      (∀ line ∈ Text.lines text, Text.units line.content < 2 ^ 32) →
      ∀ i, Text.Editable text i → ∃ own : Position,
        (∀ p : Position, Place.Addresses text p.place i ↔ p = own) ∧ own.offset text = i ∧
          ∀ p : Position, i ≤ p.offset text ↔ own.key ≤ p.key := by
    intro hlines hunits i hi
    obtain ⟨place, hplace⟩ := Place.exists_addresses hi
    obtain ⟨own, rfl⟩ := Position.exists_place_eq (hplace.fits32 hlines hunits)
    refine ⟨own, fun p => ⟨fun hp => Position.place_injective (hplace.unique hp), ?_⟩,
      hplace.offset_eq, fun p => hplace.le_offset_iff p.place⟩
    rintro rfl
    exact hplace
  refine ⟨fun p q h => Place.offset_le_offset h text, fun p => Place.editable_offset p.place text,
    fun i hi => ?_, Document.edit_swap text, Document.exists_edit text,
    fun hlines hunits => ⟨fun i => ⟨?_, fun hi => ?_⟩, hmeant hlines hunits⟩⟩
  · obtain ⟨own, hown⟩ := Place.exists_addresses hi
    refine ⟨own, fun place => ⟨hown.unique, ?_⟩, hown.offset_eq,
      fun p => hown.le_offset_iff p.place, Position.exists_offset_iff hown⟩
    rintro rfl
    exact hown
  · rintro ⟨p, rfl⟩
    exact Place.editable_offset p.place text
  · obtain ⟨own, -, hown, -⟩ := hmeant hlines hunits i hi
    exact ⟨own, hown⟩

/-- In a text with a surrogate pair and a break of two characters: a position inside the pair and
one behind the end of the line, and the place behind the break. -/
theorem positions_clamp_to_places_pair :
    (Position.key ⟨0, 2⟩ ≤ Position.key ⟨0, 9⟩ ∧
      Position.offset ⟨0, 2⟩ "a😀\r\nb".toList ≤ Position.offset ⟨0, 9⟩ "a😀\r\nb".toList) ∧
    Text.Editable "a😀\r\nb".toList 4 ∧
    (∃ own : Place, (∀ place, Place.Addresses "a😀\r\nb".toList place 4 ↔ place = own) ∧
      own.offset "a😀\r\nb".toList = 4 ∧
      (∀ p : Position, 4 ≤ p.offset "a😀\r\nb".toList ↔ own.key ≤ p.key) ∧
      ((∃ p : Position, p.offset "a😀\r\nb".toList = 4) ↔ own.Fits32 ∨
        4 = "a😀\r\nb".toList.length ∧ (Text.lines "a😀\r\nb".toList).length < 2 ^ 32)) ∧
    (Text.lines "a😀\r\nb".toList).length ≤ 2 ^ 32 ∧
    (∀ line ∈ Text.lines "a😀\r\nb".toList, Text.units line.content < 2 ^ 32) ∧
    ∃ own : Position, (∀ p : Position, Place.Addresses "a😀\r\nb".toList p.place 4 ↔ p = own) ∧
      own.offset "a😀\r\nb".toList = 4 ∧
      ∀ p : Position, 4 ≤ p.offset "a😀\r\nb".toList ↔ own.key ≤ p.key := by
  obtain ⟨hmono, hwhole, hown, -, -, hcount⟩ := positions_clamp_to_places "a😀\r\nb".toList
  have hoffset : Position.offset ⟨1, 0⟩ "a😀\r\nb".toList = 4 := by decide +kernel
  have hplace : Text.Editable "a😀\r\nb".toList 4 := hoffset ▸ hwhole ⟨1, 0⟩
  have hkey : Position.key ⟨0, 2⟩ ≤ Position.key ⟨0, 9⟩ := by decide
  have hlines : (Text.lines "a😀\r\nb".toList).length ≤ 2 ^ 32 := by decide +kernel
  have hunits : ∀ line ∈ Text.lines "a😀\r\nb".toList, Text.units line.content < 2 ^ 32 := by
    decide +kernel
  exact ⟨⟨hkey, hmono _ _ hkey⟩, hplace, hown 4 hplace, hlines, hunits,
    (hcount hlines hunits).2 4 hplace⟩

theorem Position.not_exists_offset_of_long {n : Nat} (h : 2 ^ 32 < n) :
    Text.Editable (List.replicate n 'a') (2 ^ 32) ∧
      ¬ ∃ p : Position, p.offset (List.replicate n 'a') = 2 ^ 32 := by
  have hunbroken := Text.unbroken_replicate n
  have hlength : (List.replicate n 'a').length = n := List.length_replicate
  have hplace : Place.Addresses (List.replicate n 'a') ⟨0, 2 ^ 32⟩ (2 ^ 32) := by
    refine (Place.addresses_of_unbroken hunbroken).2 ⟨rfl, by omega, ?_⟩
    rw [List.take_replicate, Text.units_replicate, Nat.min_eq_left (Nat.le_of_lt h)]
  refine ⟨(Text.editable_of_unbroken hunbroken).2 (by omega), ?_⟩
  rw [Position.exists_offset_iff hplace, hlength]
  rintro (hfits | ⟨hn, -⟩)
  · exact absurd hfits.column (Nat.lt_irrefl _)
  · omega

/-- Not every index at which a text can be edited is meant by a position: a line can have more units
than 32 bits can count. -/
theorem long_line_exceeds_positions :
    ¬ ∀ (text : Text) (i : Nat), Text.Editable text i → ∃ p : Position, p.offset text = i := by
  intro h
  obtain ⟨hplace, hnone⟩ := Position.not_exists_offset_of_long (Nat.lt_succ_self (2 ^ 32))
  exact hnone (h _ _ hplace)

end DawnServer
