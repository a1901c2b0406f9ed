import DawnServer.Text.Lines

/-!
# Texts line by line

A text is its last line, or a line with its break and a text behind it.  This module
gives that cut as an induction principle (`lines_induction`) and says what the two
readings of lines make of it: `lines`, which keeps the breaks, and `lineContents`,
which scans for the contents.  They agree (`map_withoutBreak_lines`).
-/

namespace DawnServer.Text

def Unbroken (text : Text) : Prop := ∀ c ∈ text, isBreak c = false

/-- A break that ends a line before `rest`: a lone carriage return must not be followed
by the line feed that would belong to it. -/
def Break.Precedes (ending : Break) (rest : Text) : Prop :=
  ending ≠ .none ∧ (ending = .cr → rest.head? ≠ some '\n')

/-- Whether two parts of a text meet inside a break. -/
def CutsBreak (before behind : Text) : Prop :=
  before.getLast? = some '\r' ∧ behind.head? = some '\n'

theorem unbroken_nil : Unbroken [] := by
  intro c hc
  simp at hc

theorem unbroken_cons {c : Char} {text : Text} :
    Unbroken (c :: text) ↔ isBreak c = false ∧ Unbroken text := by
  simp [Unbroken]

theorem unbroken_append {a b : Text} : Unbroken (a ++ b) ↔ Unbroken a ∧ Unbroken b := by
  simp only [Unbroken, List.mem_append]
  constructor
  · intro h
    exact ⟨fun c hc => h c (.inl hc), fun c hc => h c (.inr hc)⟩
  · rintro ⟨ha, hb⟩ c (hc | hc)
    · exact ha c hc
    · exact hb c hc

theorem isBreak_eq_false {c : Char} : isBreak c = false ↔ c ≠ '\r' ∧ c ≠ '\n' := by
  simp [isBreak]

theorem head?_ne_lf_of_unbroken {text : Text} (h : Unbroken text) :
    text.head? ≠ some '\n' := by
  intro hh
  have hlf := h '\n' (List.mem_of_mem_head? hh)
  exact absurd hlf (by decide)

theorem not_cutsBreak_of_head {before front behind : Text} (hne : front ≠ [])
    (h : Unbroken front) : ¬ CutsBreak before (front ++ behind) := by
  rintro ⟨-, hlf⟩
  obtain ⟨c, tail, rfl⟩ := List.exists_cons_of_ne_nil hne
  exact head?_ne_lf_of_unbroken h hlf

theorem not_cutsBreak_of_last {before back behind : Text} (hne : back ≠ [])
    (h : Unbroken back) : ¬ CutsBreak (before ++ back) behind := by
  rintro ⟨hcr, -⟩
  rw [List.getLast?_append, List.getLast?_eq_some_getLast hne, Option.some_or] at hcr
  have hbreak := h _ (List.getLast_mem hne)
  rw [Option.some.inj hcr] at hbreak
  exact absurd hbreak (by decide)

theorem Break.Precedes.exists_cons {ending : Break} {rest : Text}
    (h : ending.Precedes rest) : ∃ c tail, ending.chars = c :: tail ∧ isBreak c = true := by
  cases ending with
  | none => exact absurd rfl h.1
  | lf => exact ⟨'\n', [], rfl, rfl⟩
  | cr => exact ⟨'\r', [], rfl, rfl⟩
  | crlf => exact ⟨'\r', ['\n'], rfl, rfl⟩

theorem Break.Precedes.getLast?_chars {ending : Break} {rest : Text}
    (h : ending.Precedes rest) :
    ∃ c, ending.chars.getLast? = some c ∧ isBreak c = true ∧ (c = '\r' → ending = .cr) := by
  cases ending with
  | none => exact absurd rfl h.1
  | lf => exact ⟨'\n', rfl, rfl, by decide⟩
  | cr => exact ⟨'\r', rfl, rfl, fun _ => rfl⟩
  | crlf => exact ⟨'\n', rfl, rfl, by decide⟩

theorem Break.isBreak_of_mem_chars {ending : Break} {c : Char} (h : c ∈ ending.chars) :
    isBreak c = true := by
  cases ending with
  | none => exact absurd h List.not_mem_nil
  | lf =>
    rw [List.mem_singleton.1 h]
    rfl
  | cr =>
    rw [List.mem_singleton.1 h]
    rfl
  | crlf =>
    rcases List.mem_cons.1 h with rfl | h
    · rfl
    · rw [List.mem_singleton.1 h]
      rfl

theorem Break.Precedes.of_head? {ending : Break} {rest other : Text}
    (h : ending.Precedes rest) (hhead : other.head? = some '\n' → rest.head? = some '\n') :
    ending.Precedes other :=
  ⟨h.1, fun hcr hlf => h.2 hcr (hhead hlf)⟩

theorem cutsBreak_line_iff {content front behind : Text} {ending : Break}
    (he : ending.Precedes (front ++ behind)) :
    CutsBreak (content ++ (ending.chars ++ front)) behind ↔ CutsBreak front behind := by
  obtain ⟨c, hend, -, hcr⟩ := he.getLast?_chars
  unfold CutsBreak
  rw [List.getLast?_append, List.getLast?_append, hend]
  cases front with
  | nil =>
    refine ⟨fun hcut => ?_, fun hcut => by simp at hcut⟩
    have hlast : c = '\r' := by simpa using hcut.1
    exact absurd hcut.2 (he.2 (hcr hlast))
  | cons d front =>
    rw [List.getLast?_cons, Option.some_or, Option.some_or]

theorem Break.Precedes.append {content rest behind : Text} {ending : Break}
    (he : ending.Precedes rest)
    (h : ¬ CutsBreak (content ++ (ending.chars ++ rest)) behind) :
    ending.Precedes (rest ++ behind) ∧ ¬ CutsBreak rest behind := by
  have hwhole : ending.Precedes (rest ++ behind) := by
    refine ⟨he.1, ?_⟩
    rintro rfl hlf
    cases rest with
    | nil => exact h ⟨by simp [Break.chars], hlf⟩
    | cons d rest => exact he.2 rfl hlf
  exact ⟨hwhole, fun hcut => h ((cutsBreak_line_iff hwhole).2 hcut)⟩

/-! ## Lines with their breaks -/

theorem lines_cons_of_not_isBreak {c : Char} (h : isBreak c = false) (text : Text) :
    lines (c :: text) = pushLine c (lines text) := by
  obtain ⟨hcr, hlf⟩ := isBreak_eq_false.1 h
  rw [lines] <;> simp_all

theorem lines_append_of_unbroken {front : Text} (h : Unbroken front) {text : Text}
    {line : Line} {rest : List Line} (hl : lines text = line :: rest) :
    lines (front ++ text) = ⟨front ++ line.content, line.ending⟩ :: rest := by
  induction front with
  | nil => exact hl
  | cons c front ih =>
    obtain ⟨hc, hf⟩ := unbroken_cons.1 h
    rw [List.cons_append, lines_cons_of_not_isBreak hc, ih hf]
    rfl

theorem lines_break_append {ending : Break} {rest : Text} (h : ending.Precedes rest) :
    lines (ending.chars ++ rest) = ⟨[], ending⟩ :: lines rest := by
  cases ending with
  | none => exact absurd rfl h.1
  | lf => rfl
  | crlf => rfl
  | cr =>
    have hlf := h.2 rfl
    cases rest with
    | nil => rfl
    | cons d rest =>
      have hd : d ≠ '\n' := by simpa using hlf
      simp only [Break.chars, List.cons_append, List.nil_append]
      rw [lines]
      simpa using hd

theorem lines_of_unbroken {content : Text} (h : Unbroken content) :
    lines content = [⟨content, .none⟩] := by
  have hempty : lines [] = [⟨[], .none⟩] := rfl
  have hl := lines_append_of_unbroken h hempty
  simpa using hl

theorem lines_line {content : Text} (h : Unbroken content) {ending : Break} {rest : Text}
    (he : ending.Precedes rest) :
    lines (content ++ (ending.chars ++ rest)) = ⟨content, ending⟩ :: lines rest := by
  have hl := lines_append_of_unbroken h (lines_break_append he)
  simpa using hl

/-- **Induction over the lines of a text.**  A text is its last line, or a line with its
break and a text behind it. -/
@[elab_as_elim]
theorem lines_induction {motive : Text → Prop}
    (last : ∀ content, Unbroken content → motive content)
    (line : ∀ content ending rest, Unbroken content → Break.Precedes ending rest →
      motive rest → motive (content ++ (ending.chars ++ rest)))
    (text : Text) : motive text := by
  -- The characters read so far of the line that has begun come along as `front`.
  suffices h : ∀ front, Unbroken front → motive (front ++ text) from h [] unbroken_nil
  fun_induction lines text with
  | case1 =>
    intro front hf
    rw [List.append_nil]
    exact last front hf
  | case2 text ih =>
    intro front hf
    exact line front .crlf text hf ⟨by decide, by simp⟩ (ih [] unbroken_nil)
  | case3 text hlf ih =>
    intro front hf
    refine line front .cr text hf ⟨by decide, fun _ hhead => ?_⟩ (ih [] unbroken_nil)
    obtain ⟨tail, rfl⟩ := List.head?_eq_some_iff.1 hhead
    exact hlf tail rfl
  | case4 text ih =>
    intro front hf
    exact line front .lf text hf ⟨by decide, by simp⟩ (ih [] unbroken_nil)
  | case5 c text _ hcr hlf ih =>
    intro front hf
    have hc : isBreak c = false := isBreak_eq_false.2 ⟨hcr, hlf⟩
    have hfc : Unbroken (front ++ [c]) :=
      unbroken_append.2 ⟨hf, unbroken_cons.2 ⟨hc, unbroken_nil⟩⟩
    have h := ih (front ++ [c]) hfc
    rwa [List.append_assoc] at h

theorem unbroken_of_mem_lines {text : Text} {line : Line} (h : line ∈ lines text) :
    Unbroken line.content := by
  induction text using lines_induction with
  | last content hc =>
    rw [lines_of_unbroken hc, List.mem_singleton] at h
    rwa [h]
  | line content ending rest hc he ih =>
    rw [lines_line hc he, List.mem_cons] at h
    rcases h with rfl | h
    · exact hc
    · exact ih h

theorem Line.cut_cases {line : Line} {front back : Text} {c : Char}
    (h : line.chars = front ++ c :: back) :
    (∃ tail, line.content = front ++ c :: tail) ∨
      (isBreak c = true ∧ ∃ tail, front = line.content ++ tail) := by
  rcases List.append_eq_append_iff.1 h with ⟨tail, rfl, htail⟩ | ⟨tail, hcontent, htail⟩
  · have hmem : c ∈ line.ending.chars := by simp [htail]
    exact .inr ⟨Break.isBreak_of_mem_chars hmem, tail, rfl⟩
  · cases tail with
    | nil =>
      have hchars : c :: back = line.ending.chars := htail
      have hmem : c ∈ line.ending.chars := hchars ▸ List.mem_cons_self
      exact .inr ⟨Break.isBreak_of_mem_chars hmem, [], by simp [hcontent]⟩
    | cons d tail =>
      obtain ⟨rfl, -⟩ := List.cons.inj htail
      exact .inl ⟨tail, hcontent⟩

/-! ## Contents of lines -/

theorem contentsFrom_append_of_unbroken {front : Text} (h : Unbroken front)
    (done text : Text) :
    contentsFrom done (front ++ text) = contentsFrom (front.reverse ++ done) text := by
  induction front generalizing done with
  | nil => rfl
  | cons c front ih =>
    obtain ⟨hc, hf⟩ := unbroken_cons.1 h
    obtain ⟨hcr, _⟩ := isBreak_eq_false.1 hc
    rw [List.cons_append, contentsFrom, if_neg (by simp [hc]), ih hf (c :: done)]
    · simp
    · rintro _ rfl
      exact absurd rfl hcr

theorem contentsFrom_break_append {ending : Break} {rest : Text} (h : ending.Precedes rest)
    (done : Text) :
    contentsFrom done (ending.chars ++ rest) = done.reverse :: contentsFrom [] rest := by
  cases ending with
  | none => exact absurd rfl h.1
  | lf => simp [Break.chars, contentsFrom, isBreak]
  | crlf => rfl
  | cr =>
    have hlf := h.2 rfl
    simp only [Break.chars, List.cons_append, List.nil_append]
    rw [contentsFrom, if_pos (by decide)]
    rintro tail - rfl
    exact hlf rfl

theorem lineContents_of_unbroken {content : Text} (h : Unbroken content) :
    lineContents content = [content] := by
  have hc := contentsFrom_append_of_unbroken h [] []
  simpa [lineContents, contentsFrom] using hc

theorem lineContents_line {content : Text} (h : Unbroken content) {ending : Break}
    {rest : Text} (he : ending.Precedes rest) :
    lineContents (content ++ (ending.chars ++ rest)) = content :: lineContents rest := by
  unfold lineContents
  rw [contentsFrom_append_of_unbroken h, contentsFrom_break_append he]
  simp

/-! ## Lines without their breaks -/

theorem dropLastOf_of_notMem {c : Char} {text : Text} (h : c ∉ text) :
    dropLastOf c text = text := by
  have hnone : dropLast? c text = none := by
    fun_induction dropLast? c text with
    | case1 => rfl
    | case2 => simp at h
    | case3 => rfl
    | case4 d e text ih =>
      have htail := ih fun hmem => h (List.mem_cons_of_mem d hmem)
      rw [htail]
      rfl
  rw [dropLastOf, hnone]
  rfl

theorem dropLastOf_append (c : Char) (text : Text) : dropLastOf c (text ++ [c]) = text := by
  rw [dropLastOf, dropLast?_append]
  rfl

theorem withoutBreak_chars {content : Text} (h : Unbroken content) (ending : Break) :
    withoutBreak (Line.chars ⟨content, ending⟩) = content := by
  have hcr : '\r' ∉ content := fun hmem => absurd (h _ hmem) (by decide)
  have hlf : '\n' ∉ content := fun hmem => absurd (h _ hmem) (by decide)
  unfold withoutBreak Line.chars
  cases ending with
  | none =>
    rw [Break.chars, List.append_nil, dropLastOf_of_notMem hlf, dropLastOf_of_notMem hcr]
  | lf => rw [Break.chars, dropLastOf_append, dropLastOf_of_notMem hcr]
  | cr =>
    have hlf' : '\n' ∉ content ++ ['\r'] := by simp [hlf]
    rw [Break.chars, dropLastOf_of_notMem hlf', dropLastOf_append]
  | crlf =>
    have hsplit : content ++ ['\r', '\n'] = (content ++ ['\r']) ++ ['\n'] := by simp
    rw [Break.chars, hsplit, dropLastOf_append, dropLastOf_append]

/-- **The two readings of lines agree.**  The lines of a document without their breaks
are, one for one, the lines that a scan of the text finds. -/
theorem map_withoutBreak_lines (text : Text) :
    (lines text).map (fun line => withoutBreak line.chars) = lineContents text := by
  induction text using lines_induction with
  | last content hc =>
    rw [lines_of_unbroken hc, lineContents_of_unbroken hc, List.map_singleton,
      withoutBreak_chars hc]
  | line content ending rest hc he ih =>
    rw [lines_line hc he, lineContents_line hc he, List.map_cons, withoutBreak_chars hc, ih]

theorem lineContents_eq_map (text : Text) : lineContents text = (lines text).map Line.content := by
  rw [← map_withoutBreak_lines]
  refine List.map_congr_left fun line hline => ?_
  exact withoutBreak_chars (unbroken_of_mem_lines hline) line.ending

theorem lineContents_ne_nil (text : Text) : lineContents text ≠ [] := by
  rw [lineContents_eq_map]
  exact fun hnil => lines_ne_nil text (List.map_eq_nil_iff.1 hnil)

/-! ## Lines that are not empty -/

def filledLines (text : Text) : Nat := (lineContents text).countP (· ≠ [])

theorem lineContents_cons_of_not_isBreak {c : Char} (h : isBreak c = false) {text first : Text}
    {rest : List Text} (hcontents : lineContents text = first :: rest) :
    lineContents (c :: text) = (c :: first) :: rest := by
  rw [lineContents_eq_map] at hcontents ⊢
  rw [lines_cons_of_not_isBreak h]
  obtain ⟨line, behind, hlines, hfirst, hrest⟩ := List.map_eq_cons_iff.1 hcontents
  rw [hlines, pushLine, List.map_cons, hrest, hfirst]

theorem lineContents_cons_of_isBreak {c : Char} (h : isBreak c = true) (text : Text) :
    ∃ rest, lineContents (c :: text) = [] :: rest ∧
      (lineContents text = rest ∨ lineContents text = [] :: rest) := by
  have hbreak {ending : Break} {rest : Text} (he : ending.Precedes rest) :
      lineContents (ending.chars ++ rest) = [] :: lineContents rest :=
    lineContents_line unbroken_nil he
  have hlf (rest : Text) : Break.lf.Precedes rest := ⟨by decide, by simp⟩
  rcases Bool.or_eq_true_iff.1 h with hc | hc
  · rw [beq_iff_eq.1 hc]
    by_cases hwhole : text.head? = some '\n'
    · obtain ⟨tail, rfl⟩ := List.head?_eq_some_iff.1 hwhole
      have hcrlf : Break.crlf.Precedes tail := ⟨by decide, by simp⟩
      exact ⟨lineContents tail, hbreak hcrlf, .inr (hbreak (hlf tail))⟩
    · have hcr : Break.cr.Precedes text := ⟨by decide, fun _ => hwhole⟩
      exact ⟨lineContents text, hbreak hcr, .inl rfl⟩
  · rw [beq_iff_eq.1 hc]
    exact ⟨lineContents text, hbreak (hlf text), .inl rfl⟩

theorem filledLines_cons_of_isBreak {c : Char} (h : isBreak c = true) (text : Text) :
    filledLines (c :: text) = filledLines text := by
  obtain ⟨rest, hcons, htext | htext⟩ := lineContents_cons_of_isBreak h text
  · rw [filledLines, filledLines, hcons, htext, List.countP_cons_of_neg (by simp)]
  · rw [filledLines, filledLines, hcons, htext]

theorem filledLines_cons_of_not_isBreak {c : Char} (h : isBreak c = false) {text first : Text}
    {rest : List Text} (hcontents : lineContents text = first :: rest) :
    filledLines (c :: text) = rest.countP (· ≠ []) + 1 := by
  rw [filledLines, lineContents_cons_of_not_isBreak h hcontents, List.countP_cons_of_pos (by simp)]

theorem filledLines_le_cons (c : Char) (text : Text) :
    filledLines text ≤ filledLines (c :: text) := by
  cases hc : isBreak c with
  | true => exact Nat.le_of_eq (filledLines_cons_of_isBreak hc text).symm
  | false =>
    obtain ⟨first, rest, hcontents⟩ := List.exists_cons_of_ne_nil (lineContents_ne_nil text)
    rw [filledLines_cons_of_not_isBreak hc hcontents, filledLines, hcontents, List.countP_cons]
    split <;> omega

theorem filledLines_drop_le (text : Text) (n : Nat) :
    filledLines (text.drop n) ≤ filledLines text := by
  induction text generalizing n with
  | nil => exact Nat.le_of_eq (congrArg filledLines List.drop_nil)
  | cons c text ih =>
    cases n with
    | zero => exact Nat.le_refl _
    | succ n => exact Nat.le_trans (ih n) (filledLines_le_cons c text)

theorem filledLines_drop_le_drop (text : Text) {i j : Nat} (h : i ≤ j) :
    filledLines (text.drop j) ≤ filledLines (text.drop i) := by
  have hle := filledLines_drop_le (text.drop i) (j - i)
  rwa [List.drop_drop, Nat.add_sub_cancel' h] at hle

theorem filledLines_cons_of_last {c : Char} (h : isBreak c = false) {text : Text}
    (hbehind : ∀ d ∈ text.head?, isBreak d = true) :
    filledLines (c :: text) = filledLines text + 1 := by
  have hfirst : ∃ rest, lineContents text = [] :: rest := by
    cases text with
    | nil => exact ⟨[], rfl⟩
    | cons d text =>
      obtain ⟨rest, hcons, -⟩ := lineContents_cons_of_isBreak (hbehind d rfl) text
      exact ⟨rest, hcons⟩
  obtain ⟨rest, hcontents⟩ := hfirst
  rw [filledLines_cons_of_not_isBreak h hcontents, filledLines, hcontents,
    List.countP_cons_of_neg (by simp)]

end DawnServer.Text
