import DawnServer.Proofs.Script.Coverage
import Mathlib.Data.List.Forall2

/-!
# The two lengths of a last word

Whether the last word of a line is reported with its own length or with that of its line, the
tokens of a script are the same but for that length: line by line
(`Token.forall₂_ofLines`), and so position by position (`Token.forall₂_alike_classify`).  Where 32
bits can count the lines and their units, the length of the line is no smaller
(`Token.forall₂_stretches_classify`), and a longer last token does not reach the next one, since
none follows on its line (`spans_differ_in_last_words`).
-/

namespace DawnServer

open Text

theorem Word.ofLine_ne_nil {line : Text} (hfits : units line < 2 ^ 32)
    (h : ∃ c ∈ line, c ≠ ' ') : ofLine line ≠ [] := by
  obtain ⟨c, hmem, hc⟩ := h
  obtain ⟨front, back, hcut⟩ := List.append_of_mem hmem
  have hcount := countP_covers_ofLine hcut (charUnits_pos c) hfits
  rw [if_neg hc] at hcount
  intro hnil
  rw [hnil] at hcount
  cases hcount

namespace Token

/-- Whether two tokens agree in all but their lengths. -/
structure Alike (exact whole : Token) : Prop where
  line : whole.line = exact.line
  start : whole.start = exact.start
  type : whole.type = exact.type
  modifiers : whole.modifiers = exact.modifiers

/-- Whether two tokens are one word of a text, reported with its own length and, as the last of
its line among the tokens, with the length of the line. -/
structure Stretches (text : Text) (tokens : List Token) (exact whole : Token) : Prop
    extends Alike exact whole where
  inner : ¬ LastOfLine tokens exact → whole.length = exact.length
  last : LastOfLine tokens exact →
    ∃ content, (lineContents text)[exact.line.toNat]? = some content ∧
      whole.length.toNat = units content
  length_le : exact.length.toNat ≤ whole.length.toNat

section

variable {classOf : Text → WordClass} {R : Token → Token → Prop}

theorem forall₂_ofLines {first : Nat} {contents : List Text}
    (h : ∀ n content, contents[n]? = some content →
      List.Forall₂ R (ofWords classOf (.ofNat (first + n)) none (Word.ofLine content))
        (ofWords classOf (.ofNat (first + n)) (some (units32 content)) (Word.ofLine content))) :
    List.Forall₂ R (ofLines classOf .exact first contents)
      (ofLines classOf .wholeLine first contents) := by
  induction contents generalizing first with
  | nil => exact .nil
  | cons content contents ih =>
    rw [ofLines_cons, ofLines_cons]
    refine List.rel_append (h 0 content rfl) (ih fun n other hget => ?_)
    have hplace : first + 1 + n = first + (n + 1) := by omega
    rw [hplace]
    exact h (n + 1) other hget

theorem forall₂_ofWords {line length : UInt32} {words : List Word}
    (hinner : ∀ init last, words = init ++ [last] → ∀ word ∈ init,
      R (ofWord classOf line word.length word) (ofWord classOf line word.length word))
    (hlast : ∀ init last, words = init ++ [last] →
      R (ofWord classOf line last.length last) (ofWord classOf line length last)) :
    List.Forall₂ R (ofWords classOf line none words) (ofWords classOf line (some length) words) := by
  rcases List.eq_nil_or_concat words with rfl | ⟨init, last, rfl⟩
  · exact .nil
  · rw [List.concat_eq_append] at hinner hlast ⊢
    rw [ofWords_concat, ofWords_concat]
    refine List.rel_append ?_ (.cons (hlast init last rfl) .nil)
    rw [List.forall₂_map_left_iff, List.forall₂_map_right_iff, List.forall₂_same]
    exact hinner init last rfl

end

theorem forall₂_alike_classify (table : Table) (text : Text) :
    List.Forall₂ Alike (classify table .exact text) (classify table .wholeLine text) :=
  forall₂_ofLines fun _ _ _ => forall₂_ofWords (fun _ _ _ _ _ => ⟨rfl, rfl, rfl, rfl⟩)
    fun _ _ _ => ⟨rfl, rfl, rfl, rfl⟩

/-- **Position by position** the two ways to report lengths differ in those tokens only that are
the last of their lines. -/
theorem forall₂_stretches_classify (table : Table) {text : Text} (hcount : text.Countable32) :
    List.Forall₂ (Stretches text (classify table .exact text))
      (classify table .exact text) (classify table .wholeLine text) := by
  -- Which token is the last of its line is asked of all tokens, but decided within the line.
  refine forall₂_ofLines fun n content hget => ?_
  rw [Nat.zero_add]
  obtain ⟨before, behind, hline⟩ := Place.exists_lineAt hget
  have hfits : units content < 2 ^ 32 := hcount.fits (List.mem_of_getElem? hget)
  have hunits : (units32 content).toNat = units content := toNat_units32 hfits
  have hnumber : (UInt32.ofNat n).toNat = n := UInt32.toNat_ofNat_of_lt' (hcount.index_lt hget)
  refine forall₂_ofWords (fun init last hwords word hword => ?_) fun init last hwords => ?_
  · have hnot : ¬ LastOfLine (classify table .exact text)
        (ofWord (WordClass.ofWord table (boundNames text)) (.ofNat n) word.length word) :=
      not_lastOfLine_init hcount hget hwords .exact _ _ hword
    exact ⟨⟨rfl, rfl, rfl, rfl⟩, fun _ => rfl, fun h => absurd h hnot, Nat.le_refl _⟩
  · have hmem : last ∈ Word.ofLine content :=
      hwords ▸ List.mem_append_right _ (List.mem_singleton_self last)
    have hbounds := Word.bounds_of_mem_ofLine hline.unbroken hfits hmem
    have hlast : LastOfLine (classify table .exact text)
        (ofWord (WordClass.ofWord table (boundNames text)) (.ofNat n) last.length last) :=
      lastOfLine_last hcount hget hwords .exact _ _
    refine ⟨⟨rfl, rfl, rfl, rfl⟩, fun h => absurd hlast h, fun _ => ⟨content, ?_, hunits⟩, ?_⟩
    · show (lineContents text)[(UInt32.ofNat n).toNat]? = some content
      rw [hnumber, hget]
    · show last.length.toNat ≤ (units32 content).toNat
      omega

theorem exists_lastOfLine (table : Table) (spans : SpanLength) {text content : Text}
    (hcount : text.Countable32) {n : Nat} (hget : (lineContents text)[n]? = some content)
    (h : ∃ c ∈ content, c ≠ ' ') :
    ∃ token ∈ classify table spans text,
      token.line.toNat = n ∧ LastOfLine (classify table spans text) token := by
  have hfits := hcount.fits (List.mem_of_getElem? hget)
  obtain hnil | ⟨init, last, hwords⟩ := List.eq_nil_or_concat (Word.ofLine content)
  · exact absurd hnil (Word.ofLine_ne_nil hfits h)
  · rw [List.concat_eq_append] at hwords
    exact ⟨_, mem_classify.2 ⟨n, content, hget, mem_ofWords.2 ⟨init, last, hwords, .inr rfl⟩⟩,
      UInt32.toNat_ofNat_of_lt' (hcount.index_lt hget), lastOfLine_last hcount hget hwords spans _ _⟩

end Token

/-- **The two ways to report lengths differ in the last word of a line only.**  The tokens are
the same in number, and position by position in line, column, type and modifiers.  Where 32 bits
can count the lines and their units, a token that is not the last of its line has one length; the
last token of a line has its own length, or that of the line without its break, which is no
smaller, and each line with a word in it has one.  Even so no token reaches over the start of a
later one on its line. -/
theorem spans_differ_in_last_words (table : Table) (text : Text) :
    List.Forall₂ Token.Alike (Token.classify table .exact text)
      (Token.classify table .wholeLine text) ∧
    (text.Countable32 →
      List.Forall₂ (Token.Stretches text (Token.classify table .exact text))
        (Token.classify table .exact text) (Token.classify table .wholeLine text) ∧
      (∀ n content, (lineContents text)[n]? = some content → (∃ c ∈ content, c ≠ ' ') →
        ∃ token ∈ Token.classify table .exact text, token.line.toNat = n ∧
          Token.LastOfLine (Token.classify table .exact text) token) ∧
      (Token.classify table .wholeLine text).Pairwise fun a b =>
        a.line = b.line → a.start.toNat + a.length.toNat ≤ b.start.toNat) := by
  refine ⟨Token.forall₂_alike_classify table text, fun hcount =>
    ⟨Token.forall₂_stretches_classify table hcount, fun n content hget hword => ?_, ?_⟩⟩
  · exact Token.exists_lastOfLine table .exact hcount hget hword
  · refine (Token.pairwise_classify table .wholeLine hcount).imp fun hbefore hline => ?_
    rcases hbefore with hlt | ⟨-, hlt⟩
    · rw [hline] at hlt
      exact absurd hlt (UInt32.lt_irrefl _)
    · exact Nat.le_of_lt hlt

/-- In a line with a surrogate pair and spaces at its end, behind which stand a line of spaces and
a line with one word: its last word is reported as long as it is, or as long as the line. -/
theorem spans_differ_in_last_words_pair :
    Text.Countable32 "say 😀  \r\n  \nhi".toList ∧
    List.Forall₂ (Token.Stretches "say 😀  \r\n  \nhi".toList
        (Token.classify Table.builtin .exact "say 😀  \r\n  \nhi".toList))
      [⟨0, 0, 3, .function, []⟩, ⟨0, 4, 2, .label, []⟩, ⟨2, 0, 2, .label, []⟩]
      [⟨0, 0, 3, .function, []⟩, ⟨0, 4, 8, .label, []⟩, ⟨2, 0, 2, .label, []⟩] ∧
    ((lineContents "say 😀  \r\n  \nhi".toList)[0]? = some "say 😀  ".toList ∧
      (∃ c ∈ "say 😀  ".toList, c ≠ ' ') ∧
      ∃ token ∈ Token.classify Table.builtin .exact "say 😀  \r\n  \nhi".toList,
        token.line.toNat = 0 ∧
        Token.LastOfLine (Token.classify Table.builtin .exact "say 😀  \r\n  \nhi".toList)
          token) ∧
    [(⟨0, 0, 3, .function, []⟩ : Token), ⟨0, 4, 8, .label, []⟩, ⟨2, 0, 2, .label, []⟩].Pairwise
      fun a b => a.line = b.line → a.start.toNat + a.length.toNat ≤ b.start.toNat := by
  have hexact : Token.classify Table.builtin .exact "say 😀  \r\n  \nhi".toList =
      [⟨0, 0, 3, .function, []⟩, ⟨0, 4, 2, .label, []⟩, ⟨2, 0, 2, .label, []⟩] := by
    decide +kernel
  have hwhole : Token.classify Table.builtin .wholeLine "say 😀  \r\n  \nhi".toList =
      [⟨0, 0, 3, .function, []⟩, ⟨0, 4, 8, .label, []⟩, ⟨2, 0, 2, .label, []⟩] := by
    decide +kernel
  have hcountable : Text.Countable32 "say 😀  \r\n  \nhi".toList :=
    ⟨by decide +kernel, by decide +kernel⟩
  obtain ⟨hsame, hlast, hapart⟩ :=
    (spans_differ_in_last_words Table.builtin "say 😀  \r\n  \nhi".toList).2 hcountable
  have hline : (lineContents "say 😀  \r\n  \nhi".toList)[0]? = some "say 😀  ".toList := by
    decide +kernel
  have hword : ∃ c ∈ "say 😀  ".toList, c ≠ ' ' :=
    ⟨'s', List.mem_cons_self, by decide⟩
  have htoken := hlast 0 _ hline hword
  rw [hwhole] at hsame hapart
  rw [hexact] at hsame htoken ⊢
  exact ⟨hcountable, hsame, ⟨hline, hword, htoken⟩, hapart⟩

/-- The length of a line of 2³² + 1 letters is reported as one. -/
theorem long_line_length_wraps :
    ¬ ∀ (table : Table) (text : Text),
      List.Forall₂ (Token.Stretches text (Token.classify table .exact text))
        (Token.classify table .exact text) (Token.classify table .wholeLine text) := by
  intro h
  have hone : UInt32.ofNat (2 ^ 32 + 1) = 1 := rfl
  have hpos : 0 < UInt32.ofNat (2 ^ 32 + 1) := by
    rw [hone]
    decide
  obtain ⟨type, modifiers, hexact⟩ := Token.classify_replicate Table.empty .exact hpos
  obtain ⟨type', modifiers', hwhole⟩ := Token.classify_replicate Table.empty .wholeLine hpos
  have hsame := h Table.empty (List.replicate (2 ^ 32 + 1) 'a')
  rw [hexact, hwhole] at hsame
  obtain ⟨hstretches, -⟩ := List.forall₂_cons.1 hsame
  obtain ⟨content, hcontent, hlength⟩ := hstretches.last
    (List.forall_mem_singleton.2 fun _ => UInt32.le_refl _)
  rw [lineContents_of_unbroken (unbroken_replicate _)] at hcontent
  obtain rfl : List.replicate (2 ^ 32 + 1) 'a' = content := Option.some.inj hcontent
  have hreported : (UInt32.ofNat (2 ^ 32 + 1)).toNat = 2 ^ 32 + 1 := by
    rw [units_replicate] at hlength
    exact hlength
  rw [hone] at hreported
  exact absurd hreported (by decide)

end DawnServer
