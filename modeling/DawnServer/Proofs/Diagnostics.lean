import DawnServer.Diagnostics
import DawnServer.Proofs.Text.Lowercase

/-!
# The words of the diagnostics modes

A mode is chosen by its words in any ASCII case and with any white space around them.  Reading
lower-cases by the rules for all of Unicode, but none of the words holds a letter that some
character beyond ASCII becomes (`modes_by_their_words`).
-/

namespace DawnServer

open Text

namespace DiagnosticsMode

def words : List Text := ["placeholder".toList, "off".toList, "none".toList]

theorem isPlainLetter_of_mem_words : ∀ word ∈ words, ∀ c ∈ word, isPlainLetter c = true := by
  have hall : words.all (·.all isPlainLetter) = true := rfl
  exact fun word hword => List.all_eq_true.1 (List.all_eq_true.1 hall word hword)

theorem lower_trim_eq_iff {word : Text} (h : word ∈ words) (text : Text) :
    lower (trim text) = word ↔ Spells text word := by
  have hplain := isPlainLetter_of_mem_words word h
  rw [lower_eq_iff hplain, spells_iff hplain]

end DiagnosticsMode

open DiagnosticsMode in
/-- **A text chooses a mode exactly if it spells one of its words.**  Any other text is an error
that shows it without white space around it and in lower case. -/
theorem modes_by_their_words (text : Text) :
    (DiagnosticsMode.parse text = .ok .placeholder ↔ Spells text "placeholder".toList) ∧
    (DiagnosticsMode.parse text = .ok .off ↔
      Spells text "off".toList ∨ Spells text "none".toList) ∧
    (DiagnosticsMode.parse text = .error (lower (trim text)) ↔
      ¬ Spells text "placeholder".toList ∧ ¬ Spells text "off".toList ∧
        ¬ Spells text "none".toList) := by
  have hoff : "off".toList ≠ "placeholder".toList := by decide +kernel
  have hnone : "none".toList ≠ "placeholder".toList := by decide +kernel
  rw [← lower_trim_eq_iff (.head _), ← lower_trim_eq_iff (.tail _ (.head _)),
    ← lower_trim_eq_iff (.tail _ (.tail _ (.head _))), DiagnosticsMode.parse]
  generalize lower (trim text) = word
  generalize "placeholder".toList = placeholder at hoff hnone
  generalize "off".toList = off at hoff
  generalize "none".toList = none at hnone
  by_cases hplaceholder : word = placeholder
  · have hother : ¬ (word = off ∨ word = none) := by
      rintro (h | h)
      · exact hoff (h.symm.trans hplaceholder)
      · exact hnone (h.symm.trans hplaceholder)
    rw [if_pos hplaceholder]
    exact ⟨iff_of_true rfl hplaceholder, iff_of_false nofun hother,
      iff_of_false nofun fun h => h.1 hplaceholder⟩
  · rw [if_neg hplaceholder]
    by_cases hother : word = off ∨ word = none
    · rw [if_pos hother]
      exact ⟨iff_of_false nofun hplaceholder, iff_of_true rfl hother,
        iff_of_false nofun fun h => not_or.2 h.2 hother⟩
    · rw [if_neg hother]
      exact ⟨iff_of_false nofun hplaceholder, iff_of_false nofun hother,
        iff_of_true rfl ⟨hplaceholder, not_or.1 hother⟩⟩

end DawnServer
