import DawnServer.Document.Basic
import DawnServer.Proofs.Document.Offset

/-!
# The buffer of an editor

An editor keeps a document as an array of UTF-16 code units.  It finds a place by
the indices at which lines start, and knows neither characters nor lines as values.
The server keeps characters.  Both stay in step through every sequence of batches
(`buffer_follows_document`): an index of the buffer is the number of units before the
character that the server means (`offset_unitValues`).
-/

namespace DawnServer

/-- A document as an editor keeps it. -/
structure EditorBuffer where
  values : List Nat
  version : Int
  deriving DecidableEq

/-- Changes that are applied together, and the version that they lead to. -/
structure Batch where
  changes : List Change
  version : Int

/-- What is held after some batches, and how each of them was answered.  A batch that
is refused leaves what is held as it was. -/
def Batch.offerAll {α : Type} (apply : α → Batch → Except StaleVersion α) (held : α) :
    List Batch → α × List (Except StaleVersion α)
  | [] => (held, [])
  | batch :: batches =>
    let answer := apply held batch
    let next :=
      match answer with
      | .ok next => next
      | .error _ => held
    let (last, answers) := offerAll apply next batches
    (last, answer :: answers)

namespace EditorBuffer

open Text

/-- Whether a line ends right behind an index: with a line feed, or with a carriage
return that no line feed follows. -/
def endsLine (values : List Nat) (i : Nat) : Bool :=
  values[i]? == some 0x0A || (values[i]? == some 0x0D && values[i + 1]? != some 0x0A)

def lineStarts (values : List Nat) : List Nat :=
  0 :: ((List.range values.length).filter (endsLine values)).map (· + 1)

/-- The number of units of the line at `start`, without its break. -/
def lineLength (values : List Nat) (start : Nat) : Nat :=
  ((values.drop start).takeWhile fun u => !isBreakUnit u).length

def splitsPair (values : List Nat) (i : Nat) : Bool :=
  values[i - 1]?.any isHighSurrogate && values[i]?.any isLowSurrogate

/-- An index, moved back by one unit if it lies between the two halves of a pair. -/
def snap (values : List Nat) (i : Nat) : Nat := if splitsPair values i then i - 1 else i

/-- The index of a place.  A line past the last means the end of the buffer, a column
past the end of its line the end of that line's content. -/
def offset (values : List Nat) (place : Place) : Nat :=
  match (lineStarts values)[place.line]? with
  | none => values.length
  | some start => snap values (start + min place.column (lineLength values start))

def edit (values : List Nat) (change : Change) : List Nat :=
  match change.range with
  | none => unitValues change.text
  | some range =>
    let a := offset values range.start.place
    let b := offset values range.stop.place
    values.take (min a b) ++ unitValues change.text ++ values.drop (max a b)

def apply (buffer : EditorBuffer) (batch : Batch) : Except StaleVersion EditorBuffer :=
  if buffer.version < batch.version then
    .ok ⟨batch.changes.foldl edit buffer.values, batch.version⟩
  else .error ⟨batch.version, buffer.version⟩

def ofDocument (document : Document) : EditorBuffer :=
  ⟨unitValues document.text, document.version⟩

/-! ## Pairs -/

theorem splitsPair_zero (values : List Nat) : splitsPair values 0 = false := by
  cases hu : values[0]? with
  | none => simp [splitsPair, hu]
  | some u =>
    simp only [splitsPair, hu, Option.any_some, isHighSurrogate, isLowSurrogate,
      Bool.and_eq_false_iff, decide_eq_false_iff_not, Nat.zero_sub]
    omega

theorem snap_zero (values : List Nat) : snap values 0 = 0 := by
  rw [snap, splitsPair_zero]
  rfl

theorem splitsPair_length (text : Text) (rest : List Nat) :
    splitsPair (unitValues text ++ rest) (unitValues text).length = false := by
  cases hlast : (unitValues text).getLast? with
  | none =>
    rw [List.getLast?_eq_none_iff.1 hlast]
    exact splitsPair_zero rest
  | some u =>
    have hhigh := getLast?_unitValues text
    rw [hlast, Option.any_some] at hhigh
    have hne : unitValues text ≠ [] := by
      rintro he
      simp [he] at hlast
    have hpos : 0 < (unitValues text).length := List.length_pos_iff.2 hne
    have hget : (unitValues text ++ rest)[(unitValues text).length - 1]? = some u := by
      rw [List.getElem?_append_left (by omega), ← List.getLast?_eq_getElem?, hlast]
    simp [splitsPair, hget, hhigh]

theorem snap_append_right (text : Text) (rest : List Nat) (i : Nat) :
    snap (unitValues text ++ rest) ((unitValues text).length + i) =
      (unitValues text).length + snap rest i := by
  cases i with
  | zero =>
    rw [Nat.add_zero, snap, splitsPair_length, snap_zero]
    rfl
  | succ i =>
    have hpair : splitsPair (unitValues text ++ rest) ((unitValues text).length + (i + 1)) =
        splitsPair rest (i + 1) := by
      have hi : (unitValues text).length + (i + 1) - 1 = (unitValues text).length + i := by omega
      rw [splitsPair, splitsPair, hi, List.getElem?_append_right (by omega),
        List.getElem?_append_right (by omega)]
      simp
    rw [snap, snap, hpair]
    split
    · omega
    · rfl

theorem snap_append_left (values rest : List Nat) (h : rest.head?.any isLowSurrogate = false)
    {i : Nat} (hi : i ≤ values.length) : snap (values ++ rest) i = snap values i := by
  have hpair : splitsPair (values ++ rest) i = splitsPair values i := by
    rcases Nat.lt_or_eq_of_le hi with hlt | rfl
    · rw [splitsPair, splitsPair, List.getElem?_append_left hlt,
        List.getElem?_append_left (by omega)]
    · rw [splitsPair, splitsPair, List.getElem?_append_right (Nat.le_refl _), Nat.sub_self,
        ← List.head?_eq_getElem?, h]
      simp
  rw [snap, snap, hpair]

theorem snap_unitValues (text : Text) (column : Nat) :
    snap (unitValues text) (min column (units text)) =
      units (text.take (charsWithin column text)) := by
  induction text generalizing column with
  | nil =>
    simp only [units, Nat.min_zero, List.take_nil]
    exact snap_zero _
  | cons c text ih =>
    by_cases hc : charUnits c ≤ column
    · obtain ⟨k, rfl⟩ := Nat.exists_eq_add_of_le hc
      have hmin : min (charUnits c + k) (units (c :: text)) =
          (unitValues [c]).length + min k (units text) := by
        rw [length_unitValues, units, units, units]
        omega
      have happend := snap_append_right [c] (unitValues text) (min k (units text))
      rw [← unitValues_append, List.singleton_append] at happend
      rw [hmin, happend, ih k, charsWithin, if_pos hc, Nat.add_sub_cancel_left,
        List.take_succ_cons, units, length_unitValues, units, units]
      rfl
    · rw [charsWithin, if_neg hc, List.take_zero, units]
      have hsmall : charUnits c ≤ 2 := by
        unfold charUnits
        split <;> decide
      have hcolumn : column ≤ units (c :: text) := by
        rw [units]
        omega
      rw [Nat.min_eq_left hcolumn]
      rcases Nat.eq_zero_or_pos column with rfl | hpos
      · exact snap_zero _
      · have hone : column = 1 := by omega
        rcases charUnitValues_cases c with ⟨he, -, -⟩ | ⟨high, low, he, hhigh, hlow, -⟩
        · have hlen := length_charUnitValues c
          rw [he, List.length_singleton] at hlen
          omega
        · have hpair : splitsPair (unitValues (c :: text)) column = true := by
            rw [unitValues_cons, he, hone]
            simp [splitsPair, hhigh, hlow]
          rw [snap, hpair, hone]
          rfl

/-! ## Lines -/

def lineEnds (values : List Nat) : List Nat := (List.range values.length).filter (endsLine values)

theorem lineStarts_eq (values : List Nat) :
    lineStarts values = 0 :: (lineEnds values).map (· + 1) := rfl

theorem lineEnds_append (a b : List Nat) :
    lineEnds (a ++ b) =
      (List.range a.length).filter (endsLine (a ++ b)) ++ (lineEnds b).map (a.length + ·) := by
  have hshift : endsLine (a ++ b) ∘ (a.length + ·) = endsLine b := by
    funext i
    have hnext : a.length + i + 1 = a.length + (i + 1) := by omega
    simp only [Function.comp_apply, endsLine]
    rw [hnext, List.getElem?_append_right (by omega), List.getElem?_append_right (by omega),
      Nat.add_sub_cancel_left, Nat.add_sub_cancel_left]
  rw [lineEnds, lineEnds, List.length_append, List.range_add, List.filter_append,
    List.filter_map, hshift]

theorem lineEnds_unbroken_append {content : Text} (h : Unbroken content) (rest : List Nat) :
    lineEnds (unitValues content ++ rest) =
      (lineEnds rest).map ((unitValues content).length + ·) := by
  have hnone : (List.range (unitValues content).length).filter
      (endsLine (unitValues content ++ rest)) = [] := by
    rw [List.filter_eq_nil_iff]
    intro i hi
    have hlt : i < (unitValues content).length := List.mem_range.1 hi
    have hu := isBreakUnit_of_unbroken h (List.getElem_mem hlt)
    simp only [isBreakUnit, Bool.or_eq_false_iff, beq_eq_false_iff_ne] at hu
    simp only [endsLine, List.getElem?_append_left hlt, List.getElem?_eq_getElem hlt]
    simp [hu.1, hu.2]
  rw [lineEnds_append, hnone, List.nil_append]

theorem head?_eq_lf_of_unitValues {text : Text} (h : (unitValues text)[0]? = some 0x0A) :
    text.head? = some '\n' := by
  cases text with
  | nil => simp [unitValues] at h
  | cons c text =>
    rw [unitValues_cons] at h
    rcases charUnitValues_cases c with ⟨he, -, -⟩ | ⟨high, low, he, hhigh, -, -⟩
    · have hc : c.toNat = 0x0A := by simpa [he] using h
      rw [List.head?_cons, Char.toNat_inj.1 (hc.trans (by decide : 0x0A = ('\n').toNat))]
    · have hc : high = 0x0A := by simpa [he] using h
      rw [hc] at hhigh
      exact absurd hhigh (by decide)

theorem lineEnds_break_append {ending : Break} {rest : Text} (h : ending.Precedes rest) :
    lineEnds (unitValues ending.chars ++ unitValues rest) =
      ((unitValues ending.chars).length - 1) ::
        (lineEnds (unitValues rest)).map ((unitValues ending.chars).length + ·) := by
  rw [lineEnds_append]
  cases ending with
  | none => exact absurd rfl h.1
  | lf => rfl
  | crlf => rfl
  | cr =>
    have hnext : (unitValues rest)[0]? ≠ some 0x0A := fun hlf =>
      h.2 rfl (head?_eq_lf_of_unitValues hlf)
    have hends : endsLine ([0x0D] ++ unitValues rest) 0 = true := by
      simp only [endsLine, List.singleton_append, List.getElem?_cons_zero,
        List.getElem?_cons_succ]
      simpa using hnext
    have hvalues : unitValues (Break.chars .cr) = [0x0D] := rfl
    rw [hvalues, List.length_singleton, List.range_one, List.filter_cons_of_pos hends]
    rfl

theorem lineStarts_of_unbroken {content : Text} (h : Unbroken content) :
    lineStarts (unitValues content) = [0] := by
  have hends := lineEnds_unbroken_append h []
  rw [List.append_nil] at hends
  rw [lineStarts_eq, hends]
  rfl

theorem lineStarts_line {content : Text} (h : Unbroken content) {ending : Break} {rest : Text}
    (he : ending.Precedes rest) :
    lineStarts (unitValues (content ++ ending.chars) ++ unitValues rest) =
      0 :: (lineStarts (unitValues rest)).map
        ((unitValues (content ++ ending.chars)).length + ·) := by
  have hpos : 0 < (unitValues ending.chars).length := by
    obtain ⟨c, tail, hchars, -⟩ := he.exists_cons
    rw [length_unitValues, hchars]
    exact units_pos (List.cons_ne_nil c tail)
  rw [lineStarts_eq, unitValues_append, List.append_assoc, lineEnds_unbroken_append h,
    lineEnds_break_append he, lineStarts_eq, List.length_append]
  simp only [List.map_cons, List.map_map, List.cons.injEq, true_and]
  refine ⟨by omega, List.map_congr_left fun i _ => ?_⟩
  simp only [Function.comp_apply]
  omega

theorem lineLength_unbroken_append {content : Text} (h : Unbroken content) {rest : List Nat}
    (hrest : rest.head?.all isBreakUnit = true) :
    lineLength (unitValues content ++ rest) 0 = units content := by
  have hcontent : ∀ u ∈ unitValues content, (!isBreakUnit u) = true := fun u hu => by
    rw [isBreakUnit_of_unbroken h hu]
    rfl
  have hstop : rest.takeWhile (fun u => !isBreakUnit u) = [] := by
    cases rest with
    | nil => rfl
    | cons u rest =>
      have hu : isBreakUnit u = true := by simpa using hrest
      rw [List.takeWhile_cons, hu]
      rfl
  rw [lineLength, List.drop_zero, List.takeWhile_append_of_pos hcontent, hstop,
    List.append_nil, length_unitValues]

theorem lineLength_append_right (a b : List Nat) (start : Nat) :
    lineLength (a ++ b) (a.length + start) = lineLength b start := by
  rw [lineLength, lineLength, List.drop_length_add_append]

/-! ## Places -/

theorem exists_cons_break {ending : Break} {rest : Text} (h : ending.Precedes rest)
    (values : List Nat) :
    ∃ u tail, unitValues ending.chars ++ values = u :: tail ∧ isBreakUnit u = true ∧
      isLowSurrogate u = false := by
  cases ending with
  | none => exact absurd rfl h.1
  | lf => exact ⟨0x0A, values, rfl, rfl, rfl⟩
  | cr => exact ⟨0x0D, values, rfl, rfl, rfl⟩
  | crlf => exact ⟨0x0D, 0x0A :: values, rfl, rfl, rfl⟩

theorem offset_of_unbroken {content : Text} (h : Unbroken content) (line column : Nat) :
    offset (unitValues content) ⟨line, column⟩ =
      if line = 0 then snap (unitValues content) (min column (units content))
      else (unitValues content).length := by
  rw [offset, lineStarts_of_unbroken h]
  cases line with
  | zero =>
    have hlength : lineLength (unitValues content ++ []) 0 = units content :=
      lineLength_unbroken_append h rfl
    rw [List.append_nil] at hlength
    simp [hlength]
  | succ line => simp

theorem offset_line_zero {content : Text} (h : Unbroken content) {ending : Break}
    {rest : Text} (he : ending.Precedes rest) (column : Nat) :
    offset (unitValues (content ++ ending.chars) ++ unitValues rest) ⟨0, column⟩ =
      snap (unitValues content) (min column (units content)) := by
  obtain ⟨u, tail, htail, hbreak, hlow⟩ := exists_cons_break he (unitValues rest)
  have hlength : lineLength (unitValues content ++ u :: tail) 0 = units content :=
    lineLength_unbroken_append h (by simpa using hbreak)
  have hmin : min column (units content) ≤ (unitValues content).length := by
    rw [length_unitValues]
    omega
  rw [offset, lineStarts_line h he, List.getElem?_cons_zero, unitValues_append,
    List.append_assoc, htail]
  simp only [Nat.zero_add, hlength]
  exact snap_append_left _ _ (by simpa using hlow) hmin

theorem offset_line_succ {content : Text} (h : Unbroken content) {ending : Break}
    {rest : Text} (he : ending.Precedes rest) (line column : Nat) :
    offset (unitValues (content ++ ending.chars) ++ unitValues rest) ⟨line + 1, column⟩ =
      (unitValues (content ++ ending.chars)).length +
        offset (unitValues rest) ⟨line, column⟩ := by
  rw [offset, offset, lineStarts_line h he, List.getElem?_cons_succ, List.getElem?_map]
  cases hstart : (lineStarts (unitValues rest))[line]? with
  | none => simp
  | some start =>
    simp only [Option.map_some]
    rw [lineLength_append_right, Nat.add_assoc, snap_append_right]

/-- **An index of the buffer is the number of units before the character that the server
means.** -/
theorem offset_unitValues (text : Text) (place : Place) :
    offset (unitValues text) place = units (text.take (place.offset text)) := by
  obtain ⟨line, column⟩ := place
  induction text using lines_induction generalizing line with
  | last content hc =>
    rw [offset_of_unbroken hc, Place.offset_of_unbroken hc]
    split
    · exact snap_unitValues content column
    · rw [List.take_length, length_unitValues]
  | line content ending rest hc he ih =>
    rw [← List.append_assoc, unitValues_append]
    cases line with
    | zero =>
      have hle := charsWithin_le_length column content
      rw [offset_line_zero hc he, List.append_assoc, Place.offset_line_zero hc he,
        List.take_append_of_le_length hle]
      exact snap_unitValues content column
    | succ line =>
      rw [offset_line_succ hc he, ih line, List.append_assoc, Place.offset_line_succ hc he,
        ← List.append_assoc, ← List.length_append, List.take_length_add_append, units_append,
        length_unitValues]

/-! ## Changes and batches -/

theorem edit_unitValues (text : Text) (change : Change) :
    edit (unitValues text) change = unitValues (Document.edit text change) := by
  obtain ⟨range, replacement⟩ := change
  cases range with
  | none => rfl
  | some range =>
    have hmono := monotone_units_take text
    have hmin := hmono.map_min (a := range.start.offset text) (b := range.stop.offset text)
    have hmax := hmono.map_max (a := range.start.offset text) (b := range.stop.offset text)
    simp only [edit, Document.edit, Document.splice, offset_unitValues]
    simp only [Position.offset] at hmin hmax ⊢
    rw [← hmin, ← hmax, take_unitValues, drop_unitValues, unitValues_append, unitValues_append]

theorem foldl_edit_unitValues (text : Text) (changes : List Change) :
    changes.foldl edit (unitValues text) = unitValues (changes.foldl Document.edit text) := by
  induction changes generalizing text with
  | nil => rfl
  | cons change changes ih => rw [List.foldl_cons, List.foldl_cons, edit_unitValues, ih]

theorem apply_ofDocument (document : Document) (batch : Batch) :
    (ofDocument document).apply batch =
      (document.apply batch.changes batch.version).map ofDocument := by
  unfold apply Document.apply ofDocument
  by_cases h : document.version < batch.version
  · rw [if_pos h, if_neg (by omega)]
    simp [Except.map, foldl_edit_unitValues]
  · rw [if_neg h, if_pos (by omega)]
    rfl

theorem offerAll_ofDocument (document : Document) (batches : List Batch) :
    Batch.offerAll apply (ofDocument document) batches =
      let offered :=
        Batch.offerAll (fun held batch => Document.apply held batch.changes batch.version)
          document batches
      (ofDocument offered.1, offered.2.map (Except.map ofDocument)) := by
  induction batches generalizing document with
  | nil => rfl
  | cons batch batches ih =>
    simp only [Batch.offerAll, apply_ofDocument]
    cases document.apply batch.changes batch.version with
    | ok next => simp [Except.map, ih]
    | error stale => simp [Except.map, ih]

end EditorBuffer

/-- **Buffer and document stay in step.**  Whatever batches an editor and the server take
one after the other, both answer each of them alike, the versions agree, and the text of
the server is the one text whose code units the buffer holds. -/
theorem buffer_follows_document (document : Document) (batches : List Batch) :
    let server :=
      Batch.offerAll (fun held batch => Document.apply held batch.changes batch.version)
        document batches
    let editor := Batch.offerAll EditorBuffer.apply (EditorBuffer.ofDocument document) batches
    editor.2 = server.2.map (Except.map EditorBuffer.ofDocument) ∧
      editor.1.version = server.1.version ∧
      ∀ text, Text.unitValues text = editor.1.values ↔ text = server.1.text := by
  simp only [EditorBuffer.offerAll_ofDocument, true_and]
  refine ⟨rfl, fun text => ⟨fun h => Text.unitValues_injective h, ?_⟩⟩
  rintro rfl
  rfl

end DawnServer
