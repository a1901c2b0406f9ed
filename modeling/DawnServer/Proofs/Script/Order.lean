import DawnServer.Proofs.Script.Addresses
import Mathlib.Algebra.Group.Nat.Defs
import Mathlib.Data.Prod.Lex

/-!
# The order of tokens

Where 32 bits can count the lines of a script and their units, its tokens come in the order of
their places, and a token ends before the next one of its line begins, whatever length the last
word of a line is reported with (`pairwise_classify`).
-/

namespace DawnServer.Token

open Text

def place (token : Token) : ℕ ×ₗ ℕ := toLex (token.line.toNat, token.start.toNat)

/-- Whether a token lies before another, on an earlier line or with a gap between them. -/
def Precedes (a b : Token) : Prop :=
  a.line < b.line ∨ a.line = b.line ∧ a.start.toNat + a.length.toNat < b.start.toNat

theorem Precedes.place_lt {a b : Token} (h : Precedes a b) : a.place < b.place := by
  refine Prod.Lex.toLex_lt_toLex.2 (h.imp UInt32.lt_iff_toNat_lt.1 fun hsame => ?_)
  refine ⟨congrArg UInt32.toNat hsame.1, ?_⟩
  show a.start.toNat < b.start.toNat
  omega

theorem line_of_mem_ofWords {classOf : Text → WordClass} {line : UInt32}
    {lineLength : Option UInt32} {words : List Word} {token : Token}
    (h : token ∈ ofWords classOf line lineLength words) : token.line = line := by
  obtain ⟨word, -, length, rfl⟩ := exists_word_of_mem_ofWords h
  rfl

section

variable {spans : SpanLength} {first : Nat} {contents : List Text}

theorem le_line_of_mem_ofLines {classOf : Text → WordClass} {token : Token}
    (hlines : first + contents.length ≤ 2 ^ 32)
    (h : token ∈ ofLines classOf spans first contents) : first ≤ token.line.toNat := by
  obtain ⟨n, content, hget, hmem⟩ := mem_ofLines.1 h
  have hn := (List.getElem?_eq_some_iff.1 hget).1
  have hnumber : first + n < 2 ^ 32 := by omega
  rw [line_of_mem_ofWords hmem, UInt32.toNat_ofNat_of_lt' hnumber]
  exact Nat.le_add_right first n

theorem pairwise_ofWords (classOf : Text → WordClass) (line : UInt32) (lineLength : Option UInt32)
    {content : Text} (hfits : units content < 2 ^ 32) :
    (ofWords classOf line lineLength (Word.ofLine content)).Pairwise Precedes := by
  have hwords := Word.pairwise_ofLine hfits
  rcases List.eq_nil_or_concat (Word.ofLine content) with hnil | ⟨init, last, hconcat⟩
  · rw [hnil]
    exact .nil
  · rw [List.concat_eq_append] at hconcat
    rw [hconcat, List.pairwise_append] at hwords
    obtain ⟨hinit, -, hlast⟩ := hwords
    rw [hconcat, ofWords_concat, List.pairwise_append]
    refine ⟨?_, List.pairwise_singleton _ _, ?_⟩
    · rw [List.pairwise_map]
      exact hinit.imp fun h => .inr ⟨rfl, h⟩
    · intro token htoken other hother
      obtain ⟨word, hword, rfl⟩ := List.mem_map.1 htoken
      rw [List.mem_singleton.1 hother]
      exact .inr ⟨rfl, hlast word hword last (List.mem_singleton_self last)⟩

theorem pairwise_ofLines (classOf : Text → WordClass) (spans : SpanLength)
    (hlines : first + contents.length ≤ 2 ^ 32)
    (hfits : ∀ content ∈ contents, units content < 2 ^ 32) :
    (ofLines classOf spans first contents).Pairwise Precedes := by
  induction contents generalizing first with
  | nil => exact .nil
  | cons content contents ih =>
    obtain ⟨hcontent, hrest⟩ := List.forall_mem_cons.1 hfits
    rw [List.length_cons] at hlines
    have hbehind : first + 1 + contents.length ≤ 2 ^ 32 := by omega
    have hnumber : first < 2 ^ 32 := by omega
    rw [ofLines_cons, List.pairwise_append]
    refine ⟨pairwise_ofWords classOf _ _ hcontent, ih hbehind hrest, ?_⟩
    intro token htoken other hother
    have hline := line_of_mem_ofWords htoken
    have hle := le_line_of_mem_ofLines hbehind hother
    refine .inl ?_
    rw [hline, UInt32.lt_iff_toNat_lt, UInt32.toNat_ofNat_of_lt' hnumber]
    exact hle

end

/-- **The tokens of a script come in the order of their places**, and none reaches the next
one of its line. -/
theorem pairwise_classify (table : Table) (spans : SpanLength) {text : Text}
    (hcount : text.Countable32) : (classify table spans text).Pairwise Precedes :=
  pairwise_ofLines _ spans hcount.zero_add_lines_le fun _ => hcount.fits

end DawnServer.Token
