import DawnServer.Proofs.Script.Addresses
import DawnServer.Proofs.Script.Offers
import DawnServer.Proofs.Text.Trimming
import Mathlib.Tactic.SplitIfs

/-!
# The names of words and the names of items

Completion offers each known name once for each kind that it has (`CompletionItem.mem_forDocument`,
`CompletionItem.nodup_forDocument`), and the class of a word is that of the first kind that its
name has (`WordClass.agrees_ofWord`).  So the name of a highlighted word is offered
(`highlighted_names_offered`).  An item that is written as a word is recognised unless a
parenthesis at one of its ends is taken off and nothing known is left
(`offered_names_recognised`).
-/

namespace DawnServer

open Text

/-! ## The class of a word -/

namespace WordClass

open CompletionItem

/-- Whether items agree with a class on a name: for a class of known names, the name is offered
once as what the class says and not as what would come before that; for the class of all other
words it is not offered. -/
structure Agrees (c : WordClass) (items : List CompletionItem) (name : Text) : Prop where
  function : c.type = .function → items.count ⟨name, .function⟩ = 1
  variableName : c.type = .variableName → c.modifiers = [] →
    items.count ⟨name, .variableName⟩ = 1 ∧ ⟨name, .function⟩ ∉ items
  readonly : c.type = .variableName → .readonly ∈ c.modifiers →
    items.count ⟨name, .constant⟩ = 1 ∧ ⟨name, .function⟩ ∉ items ∧ ⟨name, .variableName⟩ ∉ items
  keyword : c.type = .otherKeyword →
    items.count ⟨name, .keyword⟩ = 1 ∧ ∀ item ∈ items, item.label = name → item.kind = .keyword
  label : c.type = .label → ∀ item ∈ items, item.label ≠ name

/-- **The items of a document agree with the classes of its words.** -/
theorem agrees_ofWord (table : Table) (text word : Text) :
    Agrees (ofWord table (boundNames text) word) (forDocument table text)
      (Word.bareName word) := by
  rw [ofWord]
  generalize Word.bareName word = name
  split_ifs with hsign hcore hfunc hbound hvar hkeyword
  · exact ⟨nofun, nofun, nofun, nofun, nofun⟩
  · exact ⟨nofun, nofun, nofun, nofun, nofun⟩
  · exact ⟨fun _ => count_forDocument hfunc, nofun, nofun, nofun, nofun⟩
  · refine ⟨nofun, fun _ _ => ⟨count_forDocument hbound, ?_⟩, nofun, nofun, nofun⟩
    exact fun h => hfunc (mem_forDocument.1 h)
  · refine ⟨nofun, nofun, fun _ _ => ⟨count_forDocument hvar, ?_, ?_⟩, nofun, nofun⟩
    · exact fun h => hfunc (mem_forDocument.1 h)
    · exact fun h => hbound (mem_forDocument.1 h)
  · refine ⟨nofun, nofun, nofun, fun _ => ⟨count_forDocument hkeyword, ?_⟩, nofun⟩
    rintro ⟨label, kind⟩ hitem rfl
    have hname := mem_forDocument.1 hitem
    cases kind with
    | function => exact absurd hname hfunc
    | variableName => exact absurd hname hbound
    | constant => exact absurd hname hvar
    | keyword => rfl
  · refine ⟨nofun, nofun, nofun, nofun, fun _ => ?_⟩
    rintro ⟨label, kind⟩ hitem rfl
    have hname := mem_forDocument.1 hitem
    cases kind with
    | function => exact hfunc hname
    | variableName => exact hbound hname
    | constant => exact hvar hname
    | keyword => exact hkeyword hname

theorem ofWord_eq_label_iff {table : Table} {text word : Text} :
    ofWord table (boundNames text) word = ⟨.label, []⟩ ↔
      Word.bareName word ≠ ['='] ∧ Word.bareName word ∉ coreKeywords ∧
        ∀ item ∈ forDocument table text, item.label ≠ Word.bareName word := by
  constructor
  · intro h
    have hagrees := agrees_ofWord table text word
    rw [h] at hagrees
    refine ⟨fun hsign => ?_, fun hcore => ?_, hagrees.label rfl⟩
    · rw [ofWord, if_pos hsign] at h
      cases h
    · have hsign : Word.bareName word ≠ ['='] := by
        intro hsign
        rw [hsign] at hcore
        exact absurd hcore (by decide)
      rw [ofWord, if_neg hsign, if_pos hcore] at h
      cases h
  · rintro ⟨hsign, hcore, hnone⟩
    have hunknown (kind : ItemKind) : Word.bareName word ∉ names table (boundNames text) kind :=
      fun hname => hnone ⟨Word.bareName word, kind⟩ (mem_forDocument.2 hname) rfl
    have hfunc : Word.bareName word ∉ table.funcs := hunknown .function
    have hbound : Word.bareName word ∉ boundNames text := hunknown .variableName
    have hvar : Word.bareName word ∉ table.vars := hunknown .constant
    have hkeyword : Word.bareName word ∉ table.keywords := hunknown .keyword
    rw [ofWord, if_neg hsign, if_neg hcore, if_neg hfunc, if_neg hbound, if_neg hvar,
      if_neg hkeyword]

end WordClass

/-- **Highlighted names are offered.**  Every token marks a word, and the items of the document
agree with the class of the token on the name of that word. -/
theorem highlighted_names_offered (table : Table) (spans : SpanLength) (text : Text) :
    ∀ token ∈ Token.classify table spans text, ∃ before word behind,
      Token.Marks table text token before word behind ∧
        WordClass.Agrees ⟨token.type, token.modifiers⟩ (CompletionItem.forDocument table text)
          (Word.bareName word) := by
  intro token htoken
  obtain ⟨before, word, behind, hmarks⟩ := Token.exists_marks_of_mem htoken
  have hagrees := WordClass.agrees_ofWord table text word
  rw [hmarks.classified] at hagrees
  exact ⟨before, word, behind, hmarks, hagrees⟩

/-- In a text with a name that is bound, a word in parentheses at the end of a line that is
reported as long as its line, and a variable of the framework. -/
theorem highlighted_names_offered_call :
    (∃ before word behind,
      Token.Marks Table.builtin "let $x = (say)\n$hello $x".toList ⟨0, 9, 14, .function, []⟩
          before word behind ∧
        WordClass.Agrees ⟨.function, []⟩
          (CompletionItem.forDocument Table.builtin "let $x = (say)\n$hello $x".toList)
          (Word.bareName word)) ∧
    ∃ before word behind,
      Token.Marks Table.builtin "let $x = (say)\n$hello $x".toList
          ⟨1, 0, 6, .variableName, [.readonly]⟩ before word behind ∧
        WordClass.Agrees ⟨.variableName, [.readonly]⟩
          (CompletionItem.forDocument Table.builtin "let $x = (say)\n$hello $x".toList)
          (Word.bareName word) := by
  have hoffered := highlighted_names_offered Table.builtin .wholeLine
    "let $x = (say)\n$hello $x".toList
  exact ⟨hoffered ⟨0, 9, 14, .function, []⟩ (by decide +kernel),
    hoffered ⟨1, 0, 6, .variableName, [.readonly]⟩ (by decide +kernel)⟩

/-! ## Items as words -/

theorem dropLastOf_dropFirst_of_ne {c d : Char} {text : Text} (hfront : text.head? ≠ some c)
    (hback : text.getLast? ≠ some d) : dropLastOf d (dropFirst c text) = text := by
  have hfirst : dropFirst c text = text := by
    cases text with
    | nil => rfl
    | cons e text => exact if_neg fun he => hfront (congrArg some he)
  rw [hfirst]
  cases hdrop : dropLast? d text with
  | none => rw [dropLastOf, hdrop, Option.getD_none]
  | some rest =>
    rw [dropLast?_eq_some.1 hdrop, List.getLast?_concat] at hback
    exact absurd rfl hback

/-- **Offered names are recognised, but for parentheses at their ends.**  An item that can stand
as a word is taken for an unknown word exactly if, without one parenthesis at either end, it is
no word of the language and no name that is offered.  So every item that neither begins nor
ends with such a parenthesis is recognised. -/
theorem offered_names_recognised {table : Table} {text : Text} {item : CompletionItem}
    (hitem : item ∈ CompletionItem.forDocument table text)
    (hsolid : ∀ c ∈ item.label, isBlank c = false) :
    (WordClass.ofWord table (boundNames text) item.label = ⟨.label, []⟩ ↔
      dropLastOf ')' (dropFirst '(' item.label) ≠ ['='] ∧
      dropLastOf ')' (dropFirst '(' item.label) ∉ WordClass.coreKeywords ∧
      ∀ other ∈ CompletionItem.forDocument table text,
        other.label ≠ dropLastOf ')' (dropFirst '(' item.label)) ∧
    (item.label.head? ≠ some '(' → item.label.getLast? ≠ some ')' →
      WordClass.ofWord table (boundNames text) item.label ≠ ⟨.label, []⟩) := by
  have hname : Word.bareName item.label = dropLastOf ')' (dropFirst '(' item.label) := by
    rw [Word.bareName, (trimmed_of_solid hsolid).trim_eq]
  have hiff : WordClass.ofWord table (boundNames text) item.label = ⟨.label, []⟩ ↔ _ :=
    WordClass.ofWord_eq_label_iff
  rw [hname] at hiff
  refine ⟨hiff, fun hfront hback hlabel => ?_⟩
  have hself := dropLastOf_dropFirst_of_ne hfront hback
  exact (hiff.1 hlabel).2.2 item hitem hself.symm

/-- A name with one parenthesis, which leaves a function of the framework, and one without. -/
theorem offered_names_recognised_opening :
    (⟨"(say".toList, .variableName⟩ ∈
        CompletionItem.forDocument Table.builtin "let (say = 1".toList ∧
      (∀ c ∈ "(say".toList, isBlank c = false) ∧
      WordClass.ofWord Table.builtin (boundNames "let (say = 1".toList) "(say".toList ≠
        ⟨.label, []⟩) ∧
    ⟨"$x".toList, .variableName⟩ ∈
        CompletionItem.forDocument Table.builtin "let $x = 1".toList ∧
      (∀ c ∈ "$x".toList, isBlank c = false) ∧
      "$x".toList.head? ≠ some '(' ∧ "$x".toList.getLast? ≠ some ')' ∧
      WordClass.ofWord Table.builtin (boundNames "let $x = 1".toList) "$x".toList ≠
        ⟨.label, []⟩ := by
  have hopening : ⟨"(say".toList, .variableName⟩ ∈
      CompletionItem.forDocument Table.builtin "let (say = 1".toList := by decide +kernel
  have hplain : ⟨"$x".toList, .variableName⟩ ∈
      CompletionItem.forDocument Table.builtin "let $x = 1".toList := by decide +kernel
  have hsay : ⟨"say".toList, .function⟩ ∈
      CompletionItem.forDocument Table.builtin "let (say = 1".toList := by decide +kernel
  have hname : "say".toList = dropLastOf ')' (dropFirst '(' "(say".toList) := by decide +kernel
  have hsolid : ∀ c ∈ "(say".toList, isBlank c = false := any_isBlank_eq_false.1 (by decide)
  have hsolid' : ∀ c ∈ "$x".toList, isBlank c = false := any_isBlank_eq_false.1 (by decide)
  have hfront : "$x".toList.head? ≠ some '(' := by decide
  have hback : "$x".toList.getLast? ≠ some ')' := by decide
  refine ⟨⟨hopening, hsolid, fun hlabel => ?_⟩, hplain, hsolid', hfront, hback, ?_⟩
  · obtain ⟨-, -, hnone⟩ := (offered_names_recognised hopening hsolid).1.1 hlabel
    exact hnone _ hsay hname
  · exact (offered_names_recognised hplain hsolid').2 hfront hback

/-- A name that is bound with a call's parentheses is offered, and as a word it is unknown. -/
theorem offered_call_unrecognised :
    ⟨"f(x)".toList, .variableName⟩ ∈
        CompletionItem.forDocument Table.builtin "let f(x) = 1".toList ∧
      "f(x)".toList ≠ [] ∧ (∀ c ∈ "f(x)".toList, isBlank c = false) ∧
      WordClass.ofWord Table.builtin (boundNames "let f(x) = 1".toList) "f(x)".toList =
        ⟨.label, []⟩ := by
  have hoffered : ⟨"f(x)".toList, .variableName⟩ ∈
      CompletionItem.forDocument Table.builtin "let f(x) = 1".toList := by decide +kernel
  exact ⟨hoffered, by decide, any_isBlank_eq_false.1 (by decide), by decide +kernel⟩

end DawnServer
