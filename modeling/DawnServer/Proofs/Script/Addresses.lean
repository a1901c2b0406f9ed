import DawnServer.Document.Basic
import DawnServer.Proofs.Document.Offset
import DawnServer.Proofs.Script.Words
import DawnServer.Script.Token

/-!
# Tokens as addresses

The tokens of a script address the text of its document.  New text for the range of a
token takes the place of the one word that the token stands for, and of nothing else;
where the last token of a line is reported as long as the line, it takes the place of
everything from that word to the end of the line's content (`tokens_address_words`).  This
holds of texts whose lines and units 32 bits can count, and not of all others
(`long_lines_not_addressed`).
-/

namespace DawnServer

namespace Document

/-- Whether new text for a range goes between these two parts of the text, in place of all
that stands there. -/
def Rewrites (text : Text) (range : Range) (before behind : Text) : Prop :=
  ∀ (replacement : Text) (held newer : Int), held < newer →
    apply ⟨text, held⟩ [⟨some range, replacement⟩] newer =
      .ok ⟨before ++ replacement ++ behind, newer⟩

theorem rewrites_of_offset {before stretch behind : Text} {range : Range}
    (hstart : range.start.offset (before ++ (stretch ++ behind)) = before.length)
    (hstop : range.stop.offset (before ++ (stretch ++ behind)) = (before ++ stretch).length) :
    Rewrites (before ++ (stretch ++ behind)) range before behind := by
  intro replacement held newer hnewer
  have hle : before.length ≤ (before ++ stretch).length := by
    rw [List.length_append]
    omega
  have htake : (before ++ (stretch ++ behind)).take before.length = before :=
    List.take_left' rfl
  have hdrop : (before ++ (stretch ++ behind)).drop (before ++ stretch).length = behind := by
    rw [← List.append_assoc]
    exact List.drop_left' rfl
  have hnot : ¬ newer ≤ held := by omega
  rw [apply, if_neg hnot, List.foldl_cons, List.foldl_nil, edit]
  simp only [splice, hstart, hstop, Nat.min_eq_left hle, Nat.max_eq_right hle, htake, hdrop]

end Document

namespace Token

open Text

def range (token : Token) : Range :=
  ⟨⟨token.line, token.start⟩, ⟨token.line, token.start + token.length⟩⟩

/-- Whether no token of its line starts behind a token. -/
def LastOfLine (tokens : List Token) (token : Token) : Prop :=
  ∀ other ∈ tokens, other.line = token.line → other.start ≤ token.start

instance (tokens : List Token) (token : Token) : Decidable (LastOfLine tokens token) :=
  inferInstanceAs (Decidable (∀ other ∈ tokens, other.line = token.line →
    other.start ≤ token.start))

/-- The word that a token of a text stands for, told from other words like it by what
stands before it. -/
structure Marks (table : Table) (text : Text) (token : Token) (before word behind : Text) :
    Prop where
  cut : text = before ++ (word ++ behind)
  stands : Word.Stands before word behind
  line : token.line = .ofNat (Place.after before).line
  start : token.start = .ofNat (Place.after before).column
  classified : WordClass.ofWord table (boundNames text) word = ⟨token.type, token.modifiers⟩

namespace Marks

variable {table : Table} {text before word behind : Text} {token : Token}

theorem whole_start (h : Marks table text token before word behind) :
    ¬ CutsBreak before (word ++ behind) :=
  not_cutsBreak_of_head h.stands.nonempty h.stands.unbroken

theorem whole_behind (h : Marks table text token before word behind) :
    ¬ CutsBreak (before ++ word) behind :=
  not_cutsBreak_of_last h.stands.nonempty h.stands.unbroken

theorem after_eq (hcount : text.Countable32) (h : Marks table text token before word behind) :
    Place.after before = ⟨token.line, token.start⟩ := by
  obtain ⟨line, hget, hcolumn⟩ := Place.exists_line_after h.whole_start
  rw [← h.cut] at hget
  have hunits := hcount.units line (List.mem_of_getElem? hget)
  have hnumber : (Place.after before).line < 2 ^ 32 :=
    Nat.lt_trans (List.getElem?_eq_some_iff.1 hget).1 hcount.lines
  have hreach : (Place.after before).column < 2 ^ 32 := by omega
  have hline : token.line.toNat = (Place.after before).line := by
    rw [h.line]
    exact UInt32.toNat_ofNat_of_lt' hnumber
  have hstart : token.start.toNat = (Place.after before).column := by
    rw [h.start]
    exact UInt32.toNat_ofNat_of_lt' hreach
  rw [hline, hstart]

theorem after_append_eq (hcount : text.Countable32)
    (h : Marks table text token before word behind) :
    Place.after (before ++ word) = ⟨token.line, token.start + units word⟩ := by
  rw [Place.after_append_unbroken before h.stands.unbroken, h.after_eq hcount]

theorem end_lt (hcount : text.Countable32) (h : Marks table text token before word behind) :
    token.start.toNat + units word < 2 ^ 32 := by
  obtain ⟨line, hget, hcolumn⟩ := Place.exists_line_after h.whole_behind
  rw [List.append_assoc, ← h.cut] at hget
  have hunits := hcount.units line (List.mem_of_getElem? hget)
  rw [h.after_append_eq hcount] at hcolumn
  have hend : token.start.toNat + units word ≤ units line.content := hcolumn
  omega

theorem offset_start (hcount : text.Countable32)
    (h : Marks table text token before word behind) :
    token.range.start.offset text = before.length := by
  have hoffset := Place.offset_after h.whole_start
  rw [h.after_eq hcount, ← h.cut] at hoffset
  exact hoffset

theorem rewrites (hcount : text.Countable32) (h : Marks table text token before word behind)
    (hlength : token.length.toNat = units word) :
    Document.Rewrites text token.range before behind := by
  have hstart := h.offset_start hcount
  have hend : (token.start + token.length).toNat = token.start.toNat + units word := by
    rw [toNat_add_of_lt (by rw [hlength]; exact h.end_lt hcount), hlength]
  have hplace : token.range.stop.place = Place.after (before ++ word) := by
    rw [h.after_append_eq hcount, ← hend]
    rfl
  have hstop := Place.offset_after h.whole_behind
  rw [← hplace, List.append_assoc, ← h.cut] at hstop
  obtain rfl := h.cut
  exact Document.rewrites_of_offset hstart hstop

end Marks

/-! ## The tokens of a line -/

def ofWord (classOf : Text → WordClass) (line length : UInt32) (word : Word) : Token :=
  ⟨line, word.start, length, (classOf word.text).type, (classOf word.text).modifiers⟩

end Token

/-- The length that is reported for the last word of a line where it is not its own. -/
def SpanLength.lineLength? (spans : SpanLength) (content : Text) : Option UInt32 :=
  match spans with
  | .wholeLine => some (Text.units32 content)
  | .exact => none

namespace Token

open Text

theorem ofWords_concat (classOf : Text → WordClass) (line : UInt32) (lineLength : Option UInt32)
    (words : List Word) (last : Word) :
    ofWords classOf line lineLength (words ++ [last]) =
      words.map (fun word => ofWord classOf line word.length word) ++
        [ofWord classOf line (lineLength.getD last.length) last] := by
  induction words with
  | nil => rfl
  | cons word words ih =>
    cases words with
    | nil => rfl
    | cons next words => exact congrArg (ofWord classOf line word.length word :: ·) ih

theorem ofLines_cons (classOf : Text → WordClass) (spans : SpanLength) (first : Nat)
    (content : Text) (contents : List Text) :
    ofLines classOf spans first (content :: contents) =
      ofWords classOf (.ofNat first) (spans.lineLength? content) (Word.ofLine content) ++
        ofLines classOf spans (first + 1) contents := rfl

theorem mem_ofLines {classOf : Text → WordClass} {spans : SpanLength} {first : Nat}
    {contents : List Text} {token : Token} :
    token ∈ ofLines classOf spans first contents ↔
      ∃ n content, contents[n]? = some content ∧
        token ∈ ofWords classOf (.ofNat (first + n)) (spans.lineLength? content)
          (Word.ofLine content) := by
  induction contents generalizing first with
  | nil => simp [ofLines]
  | cons content contents ih =>
    rw [ofLines_cons, List.mem_append, ih]
    constructor
    · rintro (h | ⟨n, other, hget, h⟩)
      · exact ⟨0, content, rfl, h⟩
      · refine ⟨n + 1, other, hget, ?_⟩
        rwa [Nat.add_assoc, Nat.add_comm 1 n] at h
    · rintro ⟨n, other, hget, h⟩
      cases n with
      | zero =>
        obtain rfl : content = other := by simpa using hget
        exact .inl h
      | succ n =>
        refine .inr ⟨n, other, hget, ?_⟩
        rwa [Nat.add_assoc, Nat.add_comm 1 n]

theorem mem_classify {table : Table} {spans : SpanLength} {text : Text} {token : Token} :
    token ∈ classify table spans text ↔
      ∃ n content, (lineContents text)[n]? = some content ∧
        token ∈ ofWords (WordClass.ofWord table (boundNames text)) (.ofNat n)
          (spans.lineLength? content) (Word.ofLine content) := by
  rw [classify, mem_ofLines]
  simp only [Nat.zero_add]

theorem mem_ofWords {classOf : Text → WordClass} {line : UInt32} {lineLength : Option UInt32}
    {words : List Word} {token : Token} :
    token ∈ ofWords classOf line lineLength words ↔
      ∃ init last, words = init ++ [last] ∧
        ((∃ word ∈ init, token = ofWord classOf line word.length word) ∨
          token = ofWord classOf line (lineLength.getD last.length) last) := by
  rcases List.eq_nil_or_concat words with rfl | ⟨init, last, rfl⟩
  · simp [ofWords]
  · rw [List.concat_eq_append, ofWords_concat, List.mem_append, List.mem_map,
      List.mem_singleton]
    constructor
    · rintro (⟨word, hmem, rfl⟩ | rfl)
      · exact ⟨init, last, rfl, .inl ⟨word, hmem, rfl⟩⟩
      · exact ⟨init, last, rfl, .inr rfl⟩
    · rintro ⟨init', last', heq, h⟩
      obtain ⟨rfl, hlast⟩ := List.append_inj' heq rfl
      obtain rfl : last = last' := by simpa using hlast
      rcases h with ⟨word, hmem, rfl⟩ | rfl
      · exact .inl ⟨word, hmem, rfl⟩
      · exact .inr rfl

theorem exists_word_of_mem_ofWords {classOf : Text → WordClass} {line : UInt32}
    {lineLength : Option UInt32} {words : List Word} {token : Token}
    (h : token ∈ ofWords classOf line lineLength words) :
    ∃ word ∈ words, ∃ length, token = ofWord classOf line length word := by
  obtain ⟨init, last, rfl, ⟨word, hmem, rfl⟩ | rfl⟩ := mem_ofWords.1 h
  · exact ⟨word, List.mem_append_left _ hmem, word.length, rfl⟩
  · exact ⟨last, List.mem_append_right _ (List.mem_singleton_self last), _, rfl⟩

section

variable {text content : Text} {n : Nat}

theorem exists_marks (table : Table) (hget : (lineContents text)[n]? = some content)
    {word : Word} (hword : word ∈ Word.ofLine content) (length : UInt32) :
    ∃ before front back behind, Place.LineAt text n before content behind ∧
      content = front ++ (word.text ++ back) ∧ word.length = units32 word.text ∧
      Marks table text (ofWord (WordClass.ofWord table (boundNames text)) (.ofNat n) length word)
        (before ++ front) word.text (back ++ behind) := by
  obtain ⟨before, behind, hline⟩ := Place.exists_lineAt hget
  obtain ⟨front, back, hcut, hstart, hlength, hstands⟩ :=
    Word.exists_stands_of_mem_ofLine hline.unbroken hword
  have hfront : Unbroken front := (unbroken_append.1 (hcut ▸ hline.unbroken)).1
  have hplace : Place.after (before ++ front) = ⟨n, units front⟩ := hline.after_append hfront
  refine ⟨before, front, back, behind, hline, hcut, hlength, ?_,
    hstands.extend hline.left hline.right, ?_, ?_, rfl⟩
  · rw [hline.cut, hcut]
    simp only [List.append_assoc]
  · rw [hplace]
    rfl
  · rw [hplace]
    exact hstart

theorem exists_marks_of_mem {table : Table} {spans : SpanLength} {token : Token}
    (h : token ∈ classify table spans text) :
    ∃ before word behind, Marks table text token before word behind := by
  obtain ⟨n, content, hget, hmem⟩ := mem_classify.1 h
  obtain ⟨word, hword, length, rfl⟩ := exists_word_of_mem_ofWords hmem
  obtain ⟨before, front, back, behind, -, -, -, hmarks⟩ := exists_marks table hget hword length
  exact ⟨before ++ front, word.text, back ++ behind, hmarks⟩

theorem exists_rewrites (table : Table) (hcount : text.Countable32)
    (hget : (lineContents text)[n]? = some content) {word : Word}
    (hword : word ∈ Word.ofLine content) :
    ∃ before text' behind,
      Marks table text
        (ofWord (WordClass.ofWord table (boundNames text)) (.ofNat n) word.length word)
        before text' behind ∧
      Place.after before = ⟨UInt32.ofNat n, word.start⟩ ∧ word.length.toNat = units text' ∧
      Document.Rewrites text
        (ofWord (WordClass.ofWord table (boundNames text)) (.ofNat n) word.length word).range
        before behind := by
  obtain ⟨before, front, back, behind, -, -, hlength, hmarks⟩ :=
    exists_marks table hget hword word.length
  have hend := hmarks.end_lt hcount
  have hunits : word.length.toNat = units word.text := by
    rw [hlength]
    exact toNat_units32 (by omega)
  exact ⟨before ++ front, word.text, back ++ behind, hmarks, hmarks.after_eq hcount, hunits,
    hmarks.rewrites hcount hunits⟩

variable {table : Table} {init : List Word} {last : Word}

theorem start_lt_last (hcount : text.Countable32) (hget : (lineContents text)[n]? = some content)
    (hwords : Word.ofLine content = init ++ [last]) {word : Word} (hword : word ∈ init) :
    word.start < last.start := by
  have hpairs := Word.pairwise_ofLine (hcount.fits (List.mem_of_getElem? hget))
  rw [hwords, List.pairwise_append] at hpairs
  have hlt := hpairs.2.2 word hword last (List.mem_singleton_self last)
  rw [UInt32.lt_iff_toNat_lt]
  omega

theorem eq_of_ofNat_eq (hcount : text.Countable32) {m n : Nat} {content content' : Text}
    (hm : (lineContents text)[m]? = some content) (hn : (lineContents text)[n]? = some content')
    (h : UInt32.ofNat m = .ofNat n) : m = n := by
  have hnat := congrArg UInt32.toNat h
  rwa [UInt32.toNat_ofNat_of_lt' (hcount.index_lt hm),
    UInt32.toNat_ofNat_of_lt' (hcount.index_lt hn)] at hnat

theorem lastOfLine_last (hcount : text.Countable32)
    (hget : (lineContents text)[n]? = some content)
    (hwords : Word.ofLine content = init ++ [last]) (spans : SpanLength)
    (classOf : Text → WordClass) (length : UInt32) :
    LastOfLine (classify table spans text) (ofWord classOf (.ofNat n) length last) := by
  intro other hother hsame
  obtain ⟨m, content', hget', hmem⟩ := mem_classify.1 hother
  obtain ⟨word, hword, length', rfl⟩ := exists_word_of_mem_ofWords hmem
  obtain rfl : m = n := eq_of_ofNat_eq hcount hget' hget hsame
  obtain rfl : content = content' := Option.some.inj (hget.symm.trans hget')
  rw [hwords, List.mem_append, List.mem_singleton] at hword
  rcases hword with hinit | rfl
  · exact UInt32.le_of_lt (start_lt_last hcount hget hwords hinit)
  · exact UInt32.le_refl _

theorem not_lastOfLine_init (hcount : text.Countable32)
    (hget : (lineContents text)[n]? = some content)
    (hwords : Word.ofLine content = init ++ [last]) (spans : SpanLength)
    (classOf : Text → WordClass) (length : UInt32) {word : Word} (hword : word ∈ init) :
    ¬ LastOfLine (classify table spans text) (ofWord classOf (.ofNat n) length word) := by
  intro h
  have hlast : ofWord (WordClass.ofWord table (boundNames text)) (.ofNat n)
      ((spans.lineLength? content).getD last.length) last ∈ classify table spans text :=
    mem_classify.2 ⟨n, content, hget, mem_ofWords.2 ⟨init, last, hwords, .inr rfl⟩⟩
  have hle := h _ hlast rfl
  have hlt := start_lt_last hcount hget hwords hword
  exact UInt32.not_le.2 hlt hle

/-- A token that is as long as its line covers all from its word to the end of the
line's content, if 32 bits hold the column behind it. -/
theorem rewrites_to_line_end (table : Table) (hcount : text.Countable32)
    (hget : (lineContents text)[n]? = some content) {word : Word}
    (hword : word ∈ Word.ofLine content)
    (hend : word.start.toNat + (units32 content).toNat < 2 ^ 32) :
    ∃ before tail behind,
      Marks table text
        (ofWord (WordClass.ofWord table (boundNames text)) (.ofNat n) (units32 content) word)
        before word.text (tail ++ behind) ∧
      Unbroken tail ∧ (∀ c ∈ behind.head?, isBreak c = true) ∧
      Document.Rewrites text
        (ofWord (WordClass.ofWord table (boundNames text)) (.ofNat n) (units32 content) word).range
        before behind := by
  obtain ⟨before, front, back, behind, hline, hcut, -, hmarks⟩ :=
    exists_marks table hget hword (units32 content)
  have hback : Unbroken back := by
    have hall := hline.unbroken
    rw [hcut] at hall
    exact (unbroken_append.1 (unbroken_append.1 hall).2).2
  have hstart := hmarks.offset_start hcount
  have hunits : (units32 content).toNat = units content :=
    toNat_units32 (hcount.fits (List.mem_of_getElem? hget))
  have hn : (UInt32.ofNat n).toNat = n := UInt32.toNat_ofNat_of_lt' (hcount.index_lt hget)
  have hcolumn : (word.start + units32 content).toNat = word.start.toNat + units content := by
    rw [toNat_add_of_lt hend, hunits]
  have hplace : (ofWord (WordClass.ofWord table (boundNames text)) (.ofNat n) (units32 content)
      word).range.stop.place = ⟨n, word.start.toNat + units content⟩ :=
    congr (congrArg Place.mk hn) hcolumn
  have hpast := Place.offset_past_end hget (Nat.le_add_left (units content) word.start.toNat)
  rw [← hplace] at hpast
  have hstop : (ofWord (WordClass.ofWord table (boundNames text)) (.ofNat n) (units32 content)
      word).range.stop.offset text = (before ++ content).length := hpast.trans hline.offset_end
  refine ⟨before ++ front, back, behind, hmarks, hback, hline.right, ?_⟩
  have hshape : text = (before ++ front) ++ ((word.text ++ back) ++ behind) := by
    rw [hmarks.cut]
    simp only [List.append_assoc]
  have hlength : (before ++ content).length =
      ((before ++ front) ++ (word.text ++ back)).length := by
    rw [hcut]
    simp only [List.append_assoc]
  rw [hlength] at hstop
  rw [hshape] at hstart hstop ⊢
  exact Document.rewrites_of_offset hstart hstop

end

end Token

/-- **Tokens address their words.**  The lines that the scan of a script finds are those of
the document without their breaks.  Where 32 bits can count the lines and their units, new text
for the range of a token takes the place of the word that the token marks; for the last token of
a line, reported as long as the line, it takes the place of that word and all else up to the end
of the line's content, and of no break, if 32 bits hold the column where the range ends. -/
theorem tokens_address_words (table : Table) (text : Text) :
    (Text.lines text).map (fun line => Text.withoutBreak line.chars) = Text.lineContents text ∧
    (text.Countable32 →
      (∀ token ∈ Token.classify table .exact text, ∃ before word behind,
        Token.Marks table text token before word behind ∧
        Place.after before = ⟨token.line.toNat, token.start.toNat⟩ ∧
        token.length.toNat = Text.units word ∧
        Document.Rewrites text token.range before behind) ∧
      (∀ token ∈ Token.classify table .wholeLine text,
        ¬ Token.LastOfLine (Token.classify table .wholeLine text) token →
          ∃ before word behind, Token.Marks table text token before word behind ∧
            Place.after before = ⟨token.line.toNat, token.start.toNat⟩ ∧
            token.length.toNat = Text.units word ∧
            Document.Rewrites text token.range before behind) ∧
      (∀ token ∈ Token.classify table .wholeLine text,
        Token.LastOfLine (Token.classify table .wholeLine text) token →
        token.start.toNat + token.length.toNat < 2 ^ 32 →
          ∃ before word tail behind, Token.Marks table text token before word (tail ++ behind) ∧
            Place.after before = ⟨token.line.toNat, token.start.toNat⟩ ∧
            Text.Unbroken tail ∧ (∀ c ∈ behind.head?, Text.isBreak c = true) ∧
            Document.Rewrites text token.range before behind)) := by
  refine ⟨Text.map_withoutBreak_lines text, fun hcount => ⟨?_, ?_, ?_⟩⟩
  · intro token h
    obtain ⟨n, content, hget, hmem⟩ := Token.mem_classify.1 h
    obtain ⟨init, last, hwords, hcase⟩ := Token.mem_ofWords.1 hmem
    obtain ⟨word, hword, rfl⟩ : ∃ word ∈ Word.ofLine content, token = Token.ofWord
        (WordClass.ofWord table (boundNames text)) (.ofNat n) word.length word := by
      rw [hwords]
      rcases hcase with ⟨word, hword, rfl⟩ | rfl
      · exact ⟨word, List.mem_append_left _ hword, rfl⟩
      · exact ⟨last, List.mem_append_right _ (List.mem_singleton_self last), rfl⟩
    exact Token.exists_rewrites table hcount hget hword
  · intro token h hnot
    obtain ⟨n, content, hget, hmem⟩ := Token.mem_classify.1 h
    obtain ⟨init, last, hwords, hcase⟩ := Token.mem_ofWords.1 hmem
    rcases hcase with ⟨word, hword, rfl⟩ | rfl
    · exact Token.exists_rewrites table hcount hget (hwords ▸ List.mem_append_left _ hword)
    · exact absurd (Token.lastOfLine_last hcount hget hwords .wholeLine _ _) hnot
  · intro token h hlast hend
    obtain ⟨n, content, hget, hmem⟩ := Token.mem_classify.1 h
    obtain ⟨init, last, hwords, hcase⟩ := Token.mem_ofWords.1 hmem
    rcases hcase with ⟨word, hword, rfl⟩ | rfl
    · exact absurd hlast (Token.not_lastOfLine_init hcount hget hwords .wholeLine _ _ hword)
    · have hword : last ∈ Word.ofLine content :=
        hwords ▸ List.mem_append_right _ (List.mem_singleton_self last)
      obtain ⟨before, tail, behind, hmarks, h⟩ :=
        Token.rewrites_to_line_end table hcount hget hword hend
      exact ⟨before, last.text, tail, behind, hmarks, hmarks.after_eq hcount, h⟩

/-- In a line with a surrogate pair and a break behind it: a word as long as it is, one that
is not the last of its line, and one that is. -/
theorem tokens_address_words_pair :
    Text.Countable32 "say 😀 hi\r\nx".toList ∧
    (∃ before word behind,
      Token.Marks Table.builtin "say 😀 hi\r\nx".toList ⟨0, 7, 2, .label, []⟩ before word behind ∧
        Place.after before = ⟨0, 7⟩ ∧ 2 = Text.units word ∧
        Document.Rewrites "say 😀 hi\r\nx".toList ⟨⟨0, 7⟩, ⟨0, 9⟩⟩ before behind) ∧
    (∃ before word behind,
      Token.Marks Table.builtin "say 😀 hi\r\nx".toList ⟨0, 0, 3, .function, []⟩ before word
          behind ∧
        Place.after before = ⟨0, 0⟩ ∧ 3 = Text.units word ∧
        Document.Rewrites "say 😀 hi\r\nx".toList ⟨⟨0, 0⟩, ⟨0, 3⟩⟩ before behind) ∧
    (∃ before word tail behind,
      Token.Marks Table.builtin "say 😀 hi\r\nx".toList ⟨0, 7, 9, .label, []⟩ before word
          (tail ++ behind) ∧
        Place.after before = ⟨0, 7⟩ ∧ Text.Unbroken tail ∧
        (∀ c ∈ behind.head?, Text.isBreak c = true) ∧
        Document.Rewrites "say 😀 hi\r\nx".toList ⟨⟨0, 7⟩, ⟨0, 16⟩⟩ before behind) := by
  have hcountable : Text.Countable32 "say 😀 hi\r\nx".toList :=
    ⟨by decide +kernel, by decide +kernel⟩
  obtain ⟨-, hcount⟩ := tokens_address_words Table.builtin "say 😀 hi\r\nx".toList
  obtain ⟨hexact, hinner, hlast⟩ := hcount hcountable
  refine ⟨hcountable, ?_, ?_, ?_⟩
  · exact hexact ⟨0, 7, 2, .label, []⟩ (by decide +kernel)
  · exact hinner ⟨0, 0, 3, .function, []⟩ (by decide +kernel) (by decide +kernel)
  · exact hlast ⟨0, 7, 9, .label, []⟩ (by decide +kernel) (by decide +kernel) (by decide +kernel)

/-! ## Lines that 32 bits cannot count -/

theorem Document.Rewrites.edit_eq {text before behind : Text} {range : Range}
    (h : Rewrites text range before behind) :
    edit text ⟨some range, []⟩ = before ++ behind := by
  have happly : Except.ok (⟨edit text ⟨some range, []⟩, 1⟩ : Document) =
      .ok ⟨before ++ [] ++ behind, 1⟩ := h [] 0 1 (by decide)
  rw [List.append_nil] at happly
  exact (Document.mk.inj (Except.ok.inj happly)).1

theorem Place.offset_replicate {n k : Nat} (h : k ≤ n) :
    Place.offset ⟨0, k⟩ (List.replicate n 'a') = k := by
  have hlength : k ≤ (List.replicate n 'a').length := by rwa [List.length_replicate]
  have hwithin := Text.charsWithin_units_take hlength
  rw [List.take_replicate, Text.units_replicate, Nat.min_eq_left h] at hwithin
  rw [Place.offset_of_unbroken (Text.unbroken_replicate n), if_pos rfl, hwithin]

theorem Document.edit_of_offset {text : Text} {range : Range} {i j : Nat}
    (hstart : range.start.offset text = i) (hstop : range.stop.offset text = j) :
    edit text ⟨some range, []⟩ = text.take (min i j) ++ text.drop (max i j) := by
  simp only [edit, splice, hstart, hstop, List.append_nil]

namespace Word.Stands

variable {before word behind : Text}

theorem before_eq_nil (h : Stands before word behind) (hall : ∀ c ∈ before, c = 'a') :
    before = [] := by
  refine List.getLast?_eq_none_iff.1 (Option.eq_none_iff_forall_not_mem.2 fun c hc => ?_)
  have hparts := h.left c hc
  rw [hall c (List.mem_of_mem_getLast? hc)] at hparts
  exact absurd hparts (by decide)

theorem behind_eq_nil (h : Stands before word behind) (hall : ∀ c ∈ behind, c = 'a') :
    behind = [] := by
  refine List.head?_eq_none_iff.1 (Option.eq_none_iff_forall_not_mem.2 fun c hc => ?_)
  have hparts := h.right c hc
  rw [hall c (List.mem_of_mem_head? hc)] at hparts
  exact absurd hparts (by decide)

end Word.Stands

namespace Token

open Text

variable {n : Nat}

theorem space_notMem_replicate (n : Nat) : ' ' ∉ List.replicate n 'a' := fun h =>
  absurd (List.eq_of_mem_replicate h) (by decide)

theorem units32_replicate (n : Nat) : units32 (List.replicate n 'a') = .ofNat n :=
  congrArg UInt32.ofNat (units_replicate n)

theorem classify_replicate (table : Table) (spans : SpanLength) (h : 0 < UInt32.ofNat n) :
    ∃ type modifiers, classify table spans (List.replicate n 'a') =
      [⟨0, 0, .ofNat n, type, modifiers⟩] := by
  have hwords : Word.ofLine (List.replicate n 'a') = [⟨List.replicate n 'a', 0, .ofNat n⟩] := by
    rw [Word.ofLine, List.splitOn_eq_singleton (space_notMem_replicate n), Word.placed_singleton,
      units32_replicate, if_pos h]
  rw [classify, lineContents_of_unbroken (unbroken_replicate n), ofLines_cons, hwords]
  cases spans with
  | wholeLine =>
    rw [SpanLength.lineLength?, units32_replicate]
    exact ⟨_, _, rfl⟩
  | exact => exact ⟨_, _, rfl⟩

/-- A word that is longer than 32 bits can count is not what its token addresses. -/
theorem not_rewrites_of_long (hlong : 1 < n) {range : Range} (hrange : range = ⟨⟨0, 0⟩, ⟨0, 1⟩⟩)
    {before word behind : Text} (hstands : Word.Stands before word behind) :
    ¬ Document.Rewrites (List.replicate n 'a') range before behind := by
  intro h
  have hstart : range.start.offset (List.replicate n 'a') = 0 := by
    rw [hrange]
    exact Place.offset_replicate (Nat.zero_le n)
  have hstop : range.stop.offset (List.replicate n 'a') = 1 := by
    rw [hrange]
    exact Place.offset_replicate (Nat.le_of_lt hlong)
  have hedit := h.edit_eq
  rw [Document.edit_of_offset hstart hstop] at hedit
  have hrest : List.replicate (n - 1) 'a' = before ++ behind := by
    rw [← hedit, ← List.drop_replicate]
    rfl
  have hall (c : Char) (hc : c ∈ before ++ behind) : c = 'a' := by
    rw [← hrest] at hc
    exact List.eq_of_mem_replicate hc
  have hbefore := hstands.before_eq_nil fun c hc => hall c (List.mem_append_left _ hc)
  have hbehind := hstands.behind_eq_nil fun c hc => hall c (List.mem_append_right _ hc)
  have hlength := congrArg List.length hrest
  rw [hbefore, hbehind, List.length_replicate] at hlength
  exact absurd hlength (Nat.sub_ne_zero_of_lt hlong)

def indented (n : Nat) : Text := ' ' :: ' ' :: List.replicate n 'a'

theorem unbroken_indented (n : Nat) : Unbroken (indented n) := by
  refine unbroken_cons.2 ⟨rfl, unbroken_cons.2 ⟨rfl, unbroken_replicate n⟩⟩

theorem units_indented (n : Nat) : units (indented n) = n + 2 := by
  have hunit : charUnits ' ' = 1 := rfl
  rw [indented, units, units, units_replicate, hunit]
  omega

theorem countable32_indented (h : n + 4 = 2 ^ 32) : (indented n).Countable32 := by
  have hlines : lines (indented n) = [⟨indented n, .none⟩] := lines_of_unbroken (unbroken_indented n)
  constructor
  · rw [hlines, List.length_singleton]
    decide
  · rw [hlines]
    refine List.forall_mem_singleton.2 ?_
    show units (indented n) < 2 ^ 32 - 1
    rw [units_indented]
    omega

theorem classify_indented (table : Table) (h : n + 4 = 2 ^ 32) :
    ∃ type modifiers, classify table .wholeLine (indented n) =
      [⟨0, 2, .ofNat (n + 2), type, modifiers⟩] := by
  have hpos : 0 < UInt32.ofNat n := by
    have hn : n < 2 ^ 32 := by omega
    have hzero : (0 : UInt32).toNat = 0 := rfl
    rw [UInt32.lt_iff_toNat_lt, UInt32.toNat_ofNat_of_lt' hn, hzero]
    omega
  have hpieces : (indented n).splitOn ' ' = [[], [], List.replicate n 'a'] := by
    have hnone : ' ' ∉ ([] : Text) := List.not_mem_nil
    have hone := List.splitOn_append_cons_self_of_not_mem hnone (List.replicate n 'a')
    have htwo := List.splitOn_append_cons_self_of_not_mem hnone (' ' :: List.replicate n 'a')
    rw [List.splitOn_eq_singleton (space_notMem_replicate n)] at hone
    exact htwo.trans (congrArg ([] :: ·) hone)
  have hwords : Word.ofLine (indented n) = [⟨List.replicate n 'a', 2, .ofNat n⟩] := by
    have hnone (column : UInt32) : Word.placed column [[]] = [] := rfl
    rw [Word.ofLine, hpieces, Word.placed_cons, hnone, Word.placed_cons _ [], hnone,
      Word.placed_singleton, units32_replicate, if_pos hpos]
    rfl
  have hlength : units32 (indented n) = .ofNat (n + 2) := congrArg UInt32.ofNat (units_indented n)
  rw [classify, lineContents_of_unbroken (unbroken_indented n), ofLines_cons, hwords,
    SpanLength.lineLength?, hlength]
  exact ⟨_, _, rfl⟩

/-- The range of a token that is reported as long as its line can end at its start. -/
theorem not_rewrites_indented (h : n + 4 = 2 ^ 32) {range : Range}
    (hrange : range = ⟨⟨0, 2⟩, ⟨0, 2 + .ofNat (n + 2)⟩⟩) {before word tail behind : Text}
    (hcut : indented n = before ++ (word ++ (tail ++ behind)))
    (hstands : Word.Stands before word (tail ++ behind)) :
    ¬ Document.Rewrites (indented n) range before behind := by
  intro hrewrites
  have hwrap : (2 : UInt32) + .ofNat (n + 2) = 0 := by
    have hsum : 2 + (n + 2) = 2 ^ 32 := by omega
    have hwrap := UInt32.ofNat_add 2 (n + 2)
    rw [hsum] at hwrap
    exact hwrap.symm
  have hstart : range.start.offset (indented n) = 2 := by
    have hlength : 2 ≤ (indented n).length := Nat.le_add_left 2 _
    have hoffset : Place.offset ⟨0, 2⟩ (indented n) = _ :=
      Place.offset_of_unbroken (unbroken_indented n) 0 2
    rw [if_pos rfl] at hoffset
    rw [hrange]
    exact hoffset.trans (charsWithin_units_take hlength)
  have hstop : range.stop.offset (indented n) = 0 := by
    have hoffset : Place.offset ⟨0, 0⟩ (indented n) = _ :=
      Place.offset_of_unbroken (unbroken_indented n) 0 0
    rw [if_pos rfl, charsWithin_zero] at hoffset
    rw [hrange, hwrap]
    exact hoffset
  have hedit := hrewrites.edit_eq
  rw [Document.edit_of_offset hstart hstop] at hedit
  have hrest : List.replicate n 'a' = before ++ behind := hedit
  have hbefore : before = [] := hstands.before_eq_nil fun c hc =>
    List.eq_of_mem_replicate (hrest ▸ List.mem_append_left behind hc)
  -- Then the word begins where the text does, with a space.
  obtain ⟨c, word', rfl⟩ := List.exists_cons_of_ne_nil hstands.nonempty
  rw [hbefore] at hcut
  have hspace : ' ' = c := (List.cons.inj hcut).1
  have hparts := hstands.solid c List.mem_cons_self
  rw [← hspace] at hparts
  exact absurd hparts (by decide)

end Token

/-- Lines that 32 bits cannot count are not addressed: the token of a word of 2³² + 1 letters covers
one of them.  Nor is the last word of a line where 32 bits can count the line, but not to its end
once more from the start of the word. -/
theorem long_lines_not_addressed :
    (¬ ∀ (table : Table) (text : Text), ∀ token ∈ Token.classify table .exact text,
      ∃ before word behind, text = before ++ (word ++ behind) ∧
        Word.Stands before word behind ∧ Document.Rewrites text token.range before behind) ∧
    ¬ ∀ (table : Table) (text : Text), text.Countable32 →
      ∀ token ∈ Token.classify table .wholeLine text,
        Token.LastOfLine (Token.classify table .wholeLine text) token →
          ∃ before word tail behind, text = before ++ (word ++ (tail ++ behind)) ∧
            Word.Stands before word (tail ++ behind) ∧
            Document.Rewrites text token.range before behind := by
  constructor
  · intro h
    have hlong : 1 < 2 ^ 32 + 1 := by decide
    have hone : UInt32.ofNat (2 ^ 32 + 1) = 1 := rfl
    obtain ⟨type, modifiers, hclassify⟩ :=
      Token.classify_replicate Table.empty .exact (n := 2 ^ 32 + 1) (by rw [hone]; decide)
    obtain ⟨before, word, behind, -, hstands, hrewrites⟩ :=
      h Table.empty _ _ (hclassify ▸ List.mem_singleton_self _)
    exact Token.not_rewrites_of_long hlong rfl hstands hrewrites
  · intro h
    have hn : (2 ^ 32 - 4) + 4 = 2 ^ 32 := rfl
    obtain ⟨type, modifiers, hclassify⟩ := Token.classify_indented Table.empty hn
    obtain ⟨before, word, tail, behind, hcut, hstands, hrewrites⟩ :=
      h Table.empty _ (Token.countable32_indented hn) _ (hclassify ▸ List.mem_singleton_self _) (by
        rw [hclassify]
        exact List.forall_mem_singleton.2 fun _ => UInt32.le_refl _)
    exact Token.not_rewrites_indented hn rfl hcut hstands hrewrites

end DawnServer
