import DawnServer.Proofs.Script.Order

/-!
# What the tokens cover

Where 32 bits can count a script, its tokens cover its text, reported with their own lengths:
every code unit that neither is a space nor belongs to a break lies in exactly one token, and no
other lies in any (`Token.countP_covers`).  Nor does any sum on the way wrap
(`Word.placed?_eq`).  The main statement puts these together with the order of tokens and the
words that they stand for (`tokens_cover_text`).
-/

namespace DawnServer

open Text

/-! ## Words in their line -/

namespace Word

/-- Whether a word holds the code unit at a column of its line. -/
def covers (column : Nat) (word : Word) : Bool :=
  word.start.toNat ≤ column && column < word.start.toNat + word.length.toNat

section

variable {line piece : Text} {first : UInt32} {column : Nat}

theorem countP_covers_of_lt (hfits : first.toNat + units line < 2 ^ 32)
    (h : column < first.toNat) : (placed first (line.splitOn ' ')).countP (covers column) = 0 := by
  rw [List.countP_eq_zero]
  intro word hword
  have hle := le_start_of_mem_placed hfits hword
  simp only [covers, Bool.and_eq_true, decide_eq_true_eq]
  omega

theorem countP_covers_singleton (hfits : first.toNat + units piece < 2 ^ 32) (column : Nat) :
    (placed first [piece]).countP (covers column) =
      if first.toNat ≤ column ∧ column < first.toNat + units piece then 1 else 0 := by
  have hpiece : units piece < 2 ^ 32 := by omega
  rw [placed_singleton]
  by_cases hpos : 0 < units piece
  · rw [if_pos ((units32_pos_iff hpiece).2 hpos), List.countP_singleton]
    simp [covers, toNat_units32 hpiece]
  · rw [if_neg (mt (units32_pos_iff hpiece).1 hpos), List.countP_nil, if_neg]
    omega

end

theorem parted_cases {a b front back : Text} {x c : Char}
    (h : a ++ x :: b = front ++ c :: back) :
    (∃ tail, a = front ++ c :: tail) ∨ (a = front ∧ x = c) ∨
      ∃ tail, front = a ++ x :: tail ∧ b = tail ++ c :: back := by
  rcases List.append_eq_append_iff.1 h with ⟨tail, rfl, htail⟩ | ⟨tail, rfl, htail⟩
  · cases tail with
    | nil => exact .inr (.inl ⟨by simp, (List.cons.inj htail).1⟩)
    | cons d tail =>
      obtain ⟨rfl, rfl⟩ := List.cons.inj htail
      exact .inr (.inr ⟨tail, rfl, rfl⟩)
  · cases tail with
    | nil => exact .inr (.inl ⟨by simp, (List.cons.inj htail).1.symm⟩)
    | cons d tail =>
      obtain ⟨rfl, -⟩ := List.cons.inj htail
      exact .inl ⟨tail, rfl⟩

/-- Every unit of a line lies in one word, and only those of spaces lie in none. -/
theorem countP_covers_placed {line front back : Text} {c : Char}
    (h : line = front ++ c :: back) {i : Nat} (hi : i < charUnits c) {first : UInt32}
    (hfits : first.toNat + units line < 2 ^ 32) :
    (placed first (line.splitOn ' ')).countP (covers (first.toNat + units front + i)) =
      if c = ' ' then 0 else 1 := by
  induction line using pieces_induction generalizing front first with
  | last piece hp =>
    have hc : c ≠ ' ' := by
      rintro rfl
      simp [h] at hp
    have hunits : units piece = units front + (charUnits c + units back) := by
      rw [h, units_append, units]
    rw [List.splitOn_eq_singleton hp, countP_covers_singleton hfits, if_pos (by omega), if_neg hc]
  | space piece rest hp ih =>
    have hbehind := next_fits hfits
    have hnext := toNat_next hfits
    have hpiece := countP_covers_singleton (piece_fits hfits)
    rw [List.splitOn_append_cons_self_of_not_mem hp, placed_cons, List.countP_append, hpiece]
    rcases parted_cases h with ⟨tail, rfl⟩ | ⟨rfl, rfl⟩ | ⟨tail, rfl, hrest⟩
    · have hc : c ≠ ' ' := by
        rintro rfl
        simp at hp
      have hunits : units (front ++ c :: tail) = units front + (charUnits c + units tail) := by
        rw [units_append, units]
      rw [if_pos (by omega), countP_covers_of_lt hbehind (by omega), if_neg hc]
    · have hunit : charUnits ' ' = 1 := rfl
      rw [if_neg (by omega), countP_covers_of_lt hbehind (by omega), if_pos rfl]
    · have hplace : first.toNat + units (piece ++ ' ' :: tail) + i =
          (first + (units32 piece + 1)).toNat + units tail + i := by
        rw [hnext, units_space_cons]
        omega
      rw [hplace, if_neg (by omega), ih hrest hbehind, Nat.zero_add]

theorem countP_covers_ofLine {line front back : Text} {c : Char}
    (h : line = front ++ c :: back) {i : Nat} (hi : i < charUnits c) (hfits : units line < 2 ^ 32) :
    (ofLine line).countP (covers (units front + i)) = if c = ' ' then 0 else 1 := by
  have hzero : (0 : UInt32).toNat = 0 := rfl
  have hfirst : (0 : UInt32).toNat + units line < 2 ^ 32 := by omega
  have hplaced := countP_covers_placed h hi hfirst
  rwa [hzero, Nat.zero_add] at hplaced

end Word

/-! ## Tokens in their text -/

namespace Token

def covers (place : Place) (token : Token) : Bool :=
  token.line.toNat == place.line &&
    (token.start.toNat ≤ place.column && place.column < token.start.toNat + token.length.toNat)

theorem ofWords_none (classOf : Text → WordClass) (line : UInt32) (words : List Word) :
    ofWords classOf line none words =
      words.map fun word => ofWord classOf line word.length word := by
  rcases List.eq_nil_or_concat words with rfl | ⟨init, last, rfl⟩
  · rfl
  · rw [List.concat_eq_append, ofWords_concat, List.map_append]
    rfl

section

variable (classOf : Text → WordClass)

theorem countP_covers_ofWords (line : UInt32) (column : Nat) (words : List Word) :
    (ofWords classOf line none words).countP (covers ⟨line.toNat, column⟩) =
      words.countP (Word.covers column) := by
  rw [ofWords_none, List.countP_map]
  refine List.countP_congr fun word _ => ?_
  simp [covers, Word.covers, ofWord]

theorem countP_covers_of_line_ne {place : Place} {tokens : List Token}
    (h : ∀ token ∈ tokens, token.line.toNat ≠ place.line) :
    tokens.countP (covers place) = 0 := by
  rw [List.countP_eq_zero]
  intro token htoken
  simp [covers, h token htoken]

theorem countP_covers_ofLines {contents : List Text} {n : Nat} {content : Text}
    (h : contents[n]? = some content) {first : Nat} (hlines : first + contents.length ≤ 2 ^ 32)
    (column : Nat) :
    (ofLines classOf .exact first contents).countP (covers ⟨first + n, column⟩) =
      (Word.ofLine content).countP (Word.covers column) := by
  induction contents generalizing first n with
  | nil => simp at h
  | cons head contents ih =>
    rw [List.length_cons] at hlines
    have hbehind : first + 1 + contents.length ≤ 2 ^ 32 := by omega
    have hnumber : first < 2 ^ 32 := by omega
    have hfirst : (UInt32.ofNat first).toNat = first := UInt32.toNat_ofNat_of_lt' hnumber
    rw [ofLines_cons, List.countP_append]
    cases n with
    | zero =>
      obtain rfl : head = content := by simpa using h
      have hrest : (ofLines classOf .exact (first + 1) contents).countP
          (covers ⟨first, column⟩) = 0 := by
        refine countP_covers_of_line_ne fun token htoken => ?_
        have hle := le_line_of_mem_ofLines hbehind htoken
        exact Nat.ne_of_gt hle
      have hwords := countP_covers_ofWords classOf (.ofNat first) column (Word.ofLine head)
      rw [hfirst] at hwords
      rw [Nat.add_zero, hrest, Nat.add_zero]
      exact hwords
    | succ n =>
      have hhead : (ofWords classOf (.ofNat first) (SpanLength.exact.lineLength? head)
          (Word.ofLine head)).countP (covers ⟨first + (n + 1), column⟩) = 0 := by
        refine countP_covers_of_line_ne fun token htoken => ?_
        rw [line_of_mem_ofWords htoken, hfirst]
        show first ≠ first + (n + 1)
        omega
      have hplace : first + (n + 1) = first + 1 + n := by omega
      rw [hhead, hplace, Nat.zero_add]
      exact ih (by simpa using h) hbehind

end

/-- **Every code unit of a script lies in one token**, unless it is that of a space or belongs
to a break; then it lies in none. -/
theorem countP_covers (table : Table) {text : Text} (hcount : text.Countable32) {n : Nat}
    {line : Line} (hget : (lines text)[n]? = some line) {front back : Text} {c : Char}
    (hcut : line.chars = front ++ c :: back) {i : Nat} (hi : i < charUnits c) :
    (classify table .exact text).countP (covers ⟨n, units front + i⟩) =
      if Word.parts c then 0 else 1 := by
  have hunbroken : Unbroken line.content := unbroken_of_mem_lines (List.mem_of_getElem? hget)
  have hcontent : (lineContents text)[n]? = some line.content := by
    rw [lineContents_eq_map, List.getElem?_map, hget]
    rfl
  have hfits : units line.content < 2 ^ 32 := hcount.fits (List.mem_of_getElem? hcontent)
  have hlines : 0 + (lineContents text).length ≤ 2 ^ 32 := hcount.zero_add_lines_le
  have hwords := countP_covers_ofLines (WordClass.ofWord table (boundNames text)) hcontent hlines
    (units front + i)
  rw [Nat.zero_add] at hwords
  rw [classify, hwords]
  rcases Line.cut_cases hcut with ⟨tail, htail⟩ | ⟨hbreak, tail, rfl⟩
  · have hc : isBreak c = false := by
      rw [htail] at hunbroken
      exact (unbroken_cons.1 (unbroken_append.1 hunbroken).2).1
    rw [Word.countP_covers_ofLine htail hi hfits]
    simp [Word.parts, hc]
  · have hparts : Word.parts c = true := by rw [Word.parts, hbreak, Bool.or_true]
    rw [if_pos hparts, List.countP_eq_zero]
    intro word hword
    have hbounds := Word.bounds_of_mem_ofLine hunbroken hfits hword
    rw [units_append]
    simp only [Word.covers, Bool.and_eq_true, decide_eq_true_eq]
    omega

theorem exists_marks_exact {table : Table} {text : Text} (hcount : text.Countable32)
    {token : Token} (h : token ∈ classify table .exact text) :
    ∃ before word behind, Marks table text token before word behind ∧
      Place.after before = ⟨token.line, token.start⟩ ∧ token.length.toNat = units word := by
  obtain ⟨n, content, hget, hmem⟩ := mem_classify.1 h
  rw [SpanLength.lineLength?, ofWords_none] at hmem
  obtain ⟨word, hword, rfl⟩ := List.mem_map.1 hmem
  obtain ⟨before, marked, behind, hmarks, hplace, hlength, -⟩ :=
    exists_rewrites table hcount hget hword
  exact ⟨before, marked, behind, hmarks, hmarks.after_eq hcount, hlength⟩

end Token

/-! ## Sums that do not wrap -/

def sum32? (a b : UInt32) : Option UInt32 :=
  if a.toNat + b.toNat < 2 ^ 32 then some (a + b) else none

namespace Word

/-- The nonempty pieces among those that start at the given column, one space after the
other.  There are none if a sum leaves 32 bits. -/
def placed? (column : UInt32) : List Text → Option (List Word)
  | [] => some []
  | piece :: pieces => do
    let length := units32 piece
    let width ← sum32? length 1
    let next ← sum32? column width
    let rest ← placed? next pieces
    return if 0 < length then ⟨piece, column, length⟩ :: rest else rest

theorem placed?_cons {column : UInt32} {piece : Text} (pieces : List Text)
    (h : column.toNat + units piece + 1 < 2 ^ 32) :
    placed? column (piece :: pieces) =
      (placed? (column + (units32 piece + 1)) pieces).map (placed column [piece] ++ ·) := by
  have hlength : (units32 piece).toNat = units piece := toNat_units32 (by omega)
  have hone : (1 : UInt32).toNat = 1 := rfl
  have hwidth : (units32 piece).toNat + (1 : UInt32).toNat < 2 ^ 32 := by omega
  have hnext : column.toNat + (units32 piece + 1).toNat < 2 ^ 32 := by
    rw [toNat_add_of_lt hwidth]
    omega
  have hsum : sum32? (units32 piece) 1 = some (units32 piece + 1) := if_pos hwidth
  have hsum' : sum32? column (units32 piece + 1) = some (column + (units32 piece + 1)) :=
    if_pos hnext
  rw [placed?, placed_singleton]
  simp only [hsum, hsum', Option.bind_eq_bind, Option.bind_some]
  cases placed? (column + (units32 piece + 1)) pieces with
  | none => rfl
  | some rest => by_cases hpos : 0 < units32 piece <;> simp [hpos]

theorem placed?_eq {line : Text} {column : UInt32}
    (h : column.toNat + units line + 1 < 2 ^ 32) :
    placed? column (line.splitOn ' ') = some (placed column (line.splitOn ' ')) := by
  induction line using pieces_induction generalizing column with
  | last piece hp =>
    rw [List.splitOn_eq_singleton hp, placed?_cons [] h, placed?, Option.map_some, List.append_nil]
  | space piece rest hp ih =>
    have hfits : column.toNat + units (piece ++ ' ' :: rest) < 2 ^ 32 := by omega
    have hnext := toNat_next hfits
    rw [units_space_cons] at h
    rw [List.splitOn_append_cons_self_of_not_mem hp, placed?_cons _ (by omega), ih (by omega),
      placed_cons column piece (rest.splitOn ' '), Option.map_some]

end Word

/-- **Tokens cover their text.**  Where 32 bits can count the lines and their units, the tokens
reported with their own lengths come in strictly increasing order of places, and none reaches the
next.  Each is one of the stretches that meet a space, a break or an end of the text on either
side and hold none, and is where this stretch is and as long.  In any line every code unit of a
character lies in exactly one token, but for spaces and breaks, which lie in none.  No sum that is
taken over the words of a line wraps. -/
theorem tokens_cover_text (table : Table) {text : Text} (hcount : text.Countable32) :
    ((Token.classify table .exact text).map Token.place).Pairwise (· < ·) ∧
    (Token.classify table .exact text).Pairwise Token.Precedes ∧
    (∀ token ∈ Token.classify table .exact text, 0 < token.length.toNat ∧
      ∃ before word behind, Token.Marks table text token before word behind ∧
        Place.after before = ⟨token.line.toNat, token.start.toNat⟩ ∧
        token.length.toNat = Text.units word) ∧
    (∀ n line front c back, (Text.lines text)[n]? = some line →
      line.chars = front ++ c :: back → ∀ i < Text.charUnits c,
        (Token.classify table .exact text).countP (Token.covers ⟨n, Text.units front + i⟩) =
          if Word.parts c then 0 else 1) ∧
    (∀ content ∈ Text.lineContents text,
      Word.placed? 0 (content.splitOn ' ') = some (Word.ofLine content)) := by
  have horder := Token.pairwise_classify table .exact hcount
  refine ⟨?_, horder, ?_, ?_, ?_⟩
  · rw [List.pairwise_map]
    exact horder.imp Token.Precedes.place_lt
  · intro token htoken
    obtain ⟨before, word, behind, hmarks, hplace, hlength⟩ :=
      Token.exists_marks_exact hcount htoken
    refine ⟨?_, before, word, behind, hmarks, hplace, hlength⟩
    rw [hlength]
    exact Text.units_pos hmarks.stands.nonempty
  · intro n line front c back hget hcut i hi
    exact Token.countP_covers table hcount hget hcut hi
  · intro content hcontent
    have hunits := hcount.units_lt hcontent
    have hzero : (0 : UInt32).toNat = 0 := rfl
    exact Word.placed?_eq (by omega)

/-- In a line with a surrogate pair and a break of two characters behind it: the second half
of the pair, the line feed, the token of the pair, and the sums. -/
theorem tokens_cover_text_pair :
    Text.Countable32 "say 😀 hi\r\nx".toList ∧
    (Token.classify Table.builtin .exact "say 😀 hi\r\nx".toList).countP
        (Token.covers ⟨0, 5⟩) = 1 ∧
    (Token.classify Table.builtin .exact "say 😀 hi\r\nx".toList).countP
        (Token.covers ⟨0, 10⟩) = 0 ∧
    (∃ before word behind,
      Token.Marks Table.builtin "say 😀 hi\r\nx".toList ⟨0, 4, 2, .label, []⟩ before word behind ∧
        Place.after before = ⟨0, 4⟩ ∧ 2 = Text.units word) ∧
    Word.placed? 0 ("say 😀 hi".toList.splitOn ' ') = some (Word.ofLine "say 😀 hi".toList) := by
  have hcountable : Text.Countable32 "say 😀 hi\r\nx".toList :=
    ⟨by decide +kernel, by decide +kernel⟩
  obtain ⟨-, -, hmarks, hcovers, hsums⟩ := tokens_cover_text Table.builtin hcountable
  refine ⟨hcountable, ?_, ?_, ?_, ?_⟩
  · exact hcovers 0 ⟨"say 😀 hi".toList, .crlf⟩ "say ".toList '😀' " hi\r\n".toList
      (by decide +kernel) (by decide +kernel) 1 (by decide +kernel)
  · exact hcovers 0 ⟨"say 😀 hi".toList, .crlf⟩ "say 😀 hi\r".toList '\n' []
      (by decide +kernel) (by decide +kernel) 0 (by decide +kernel)
  · exact (hmarks ⟨0, 4, 2, .label, []⟩ (by decide +kernel)).2
  · exact hsums "say 😀 hi".toList (by decide +kernel)

end DawnServer
