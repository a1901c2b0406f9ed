import DawnServer.Proofs.Script.Occurrences
import DawnServer.Proofs.Script.OfferedNames

/-!
# Bindings without a name

A name is a stretch of a line and can be white space itself.  Nothing is left of it then, so the
empty name is bound by a binding with nothing but white space between its keyword and its equals
sign (`Binding.empty_mem_boundNames_iff`).  Completion offers it, and a word that is nothing but
parentheses is taken for it (`empty_names_offered`); but for such a binding, neither happens.
-/

namespace DawnServer

open Text

namespace Binding

/-- Whether nothing but white space stands between the keyword of a binding and its equals
sign. -/
def Occurrence.Nameless (text : Text) (o : Occurrence) : Prop :=
  ∀ c ∈ text.extract (o.start + 3) o.sign, isBlank c = true

/-- Whether the search takes a binding with nothing but white space between its keyword and its
equals sign. -/
def TakesNameless (text : Text) : Prop :=
  ∃ chosen, Selects text 0 chosen ∧ ∃ o ∈ chosen, Occurrence.Nameless text o

theorem Occurs.nameless_iff {text : Text} {o : Occurrence} (h : Occurs text o) :
    Occurrence.Nameless text o ↔ trim (o.name text) = [] := by
  obtain ⟨hlead, hname, hspace, -, -⟩ := h.increasing
  have hparts : text.extract (o.start + 3) o.nameStart ++
      (o.name text ++ text.extract o.nameStop o.sign) = text.extract (o.start + 3) o.sign := by
    rw [Occurrence.name, extract_append_extract text hname.le hspace.le,
      extract_append_extract text hlead.le (hname.trans hspace).le]
  rw [trim_eq_nil_iff, Occurrence.Nameless, ← hparts, List.forall_mem_append,
    List.forall_mem_append]
  exact ⟨fun hblank => hblank.2.1, fun hblank => ⟨h.lead.2, hblank, h.space.2⟩⟩

theorem empty_mem_boundNames_iff {text : Text} : [] ∈ boundNames text ↔ TakesNameless text := by
  have hwhole : text.drop 0 = text := rfl
  obtain ⟨chosen, hchosen, hfound⟩ := Selects.exists_find hwhole
  have hnames : boundNames text = (chosen.map (Occurrence.name text)).map trim := by
    rw [hfound, List.map_map]
    rfl
  have hoccurs {o : Occurrence} (ho : o ∈ chosen) : Occurs text o := by
    obtain ⟨_, -, hnext⟩ := hchosen.exists_isNext ho
    exact hnext.occurs
  rw [hnames, List.map_map, List.mem_map]
  constructor
  · rintro ⟨o, ho, hempty⟩
    exact ⟨chosen, hchosen, o, ho, (hoccurs ho).nameless_iff.2 hempty⟩
  · rintro ⟨others, hothers, o, ho, hnameless⟩
    rw [hothers.unique hchosen] at ho
    exact ⟨o, ho, (hoccurs ho).nameless_iff.1 hnameless⟩

theorem TakesNameless.exists_gap {text : Text} (h : TakesNameless text) :
    ∃ i j, i + 6 ≤ j ∧ text.extract i (i + 3) = keyword ∧ text[j]? = some '=' ∧
      ∀ c ∈ text.extract (i + 3) j, isBlank c = true := by
  obtain ⟨chosen, hchosen, o, ho, hnameless⟩ := h
  obtain ⟨_, -, hnext⟩ := hchosen.exists_isNext ho
  obtain ⟨hlead, hname, hspace, -, -⟩ := hnext.occurs.increasing
  exact ⟨o.start, o.sign, by omega, hnext.occurs.keyword, hnext.occurs.sign, hnameless⟩

end Binding

theorem WordClass.ofWord_of_bareName_eq_nil {table : Table} (hfuncs : [] ∉ table.funcs)
    (hvars : [] ∉ table.vars) (hkeywords : [] ∉ table.keywords) (bound : List Text) {word : Text}
    (h : Word.bareName word = []) :
    ofWord table bound word = if [] ∈ bound then ⟨.variableName, []⟩ else ⟨.label, []⟩ := by
  have hcore : [] ∉ coreKeywords := by decide
  rw [ofWord, h, if_neg (List.cons_ne_nil _ _).symm, if_neg hcore, if_neg hfuncs, if_neg hvars,
    if_neg hkeywords]

/-- **The empty name is offered exactly where a binding has none.**  A text binds the empty name if
and only if nothing but white space, which takes three characters at least, stands between the
keyword and the equals sign of a binding that the search takes.  For a framework that declares no
empty name, a document then offers the empty name as a variable, and in no other case and as
nothing else; and a word that is nothing but parentheses is then taken for a variable, and for an
unknown word in all other cases. -/
theorem empty_names_offered {table : Table} (hfuncs : [] ∉ table.funcs) (hvars : [] ∉ table.vars)
    (hkeywords : [] ∉ table.keywords) (text : Text) :
    ([] ∈ boundNames text ↔ Binding.TakesNameless text) ∧
    (Binding.TakesNameless text → ∃ i j, i + 6 ≤ j ∧
      text.extract i (i + 3) = Binding.keyword ∧ text[j]? = some '=' ∧
        ∀ c ∈ text.extract (i + 3) j, isBlank c = true) ∧
    (∀ kind, ⟨[], kind⟩ ∈ CompletionItem.forDocument table text ↔
      kind = .variableName ∧ Binding.TakesNameless text) ∧
    ∀ word ∈ ["(".toList, ")".toList, "()".toList],
      (Binding.TakesNameless text →
        WordClass.ofWord table (boundNames text) word = ⟨.variableName, []⟩) ∧
      (¬ Binding.TakesNameless text →
        WordClass.ofWord table (boundNames text) word = ⟨.label, []⟩) := by
  refine ⟨Binding.empty_mem_boundNames_iff, Binding.TakesNameless.exists_gap, fun kind => ?_,
    fun word hword => ?_⟩
  · rw [CompletionItem.mem_forDocument, ← Binding.empty_mem_boundNames_iff]
    cases kind with
    | function => exact ⟨fun h => absurd h hfuncs, nofun⟩
    | variableName => exact ⟨fun h => ⟨rfl, h⟩, And.right⟩
    | constant => exact ⟨fun h => absurd h hvars, nofun⟩
    | keyword => exact ⟨fun h => absurd h hkeywords, nofun⟩
  · have hnone : ∀ word ∈ ["(".toList, ")".toList, "()".toList], Word.bareName word = [] := by
      decide
    rw [WordClass.ofWord_of_bareName_eq_nil hfuncs hvars hkeywords _ (hnone word hword),
      ← Binding.empty_mem_boundNames_iff]
    exact ⟨fun h => if_pos h, fun h => if_neg h⟩

/-- A text with white space in place of a name, and one with a name. -/
theorem empty_names_offered_white :
    [] ∉ Table.builtin.funcs ∧ [] ∉ Table.builtin.vars ∧ [] ∉ Table.builtin.keywords ∧
    Binding.TakesNameless "say let \u2028\t= b\r()".toList ∧
    (∃ i j, i + 6 ≤ j ∧
      "say let \u2028\t= b\r()".toList.extract i (i + 3) = Binding.keyword ∧
      "say let \u2028\t= b\r()".toList[j]? = some '=' ∧
      ∀ c ∈ "say let \u2028\t= b\r()".toList.extract (i + 3) j, isBlank c = true) ∧
    ⟨[], .variableName⟩ ∈
      CompletionItem.forDocument Table.builtin "say let \u2028\t= b\r()".toList ∧
    WordClass.ofWord Table.builtin (boundNames "say let \u2028\t= b\r()".toList) "()".toList =
      ⟨.variableName, []⟩ ∧
    ¬ Binding.TakesNameless "let x = ()".toList ∧
    WordClass.ofWord Table.builtin (boundNames "let x = ()".toList) "()".toList =
      ⟨.label, []⟩ := by
  have hfuncs : [] ∉ Table.builtin.funcs := by decide +kernel
  have hvars : [] ∉ Table.builtin.vars := by decide +kernel
  have hkeywords : [] ∉ Table.builtin.keywords := by decide +kernel
  have hword : "()".toList ∈ ["(".toList, ")".toList, "()".toList] := by decide
  obtain ⟨hempty, hgap, hitems, hwords⟩ :=
    empty_names_offered hfuncs hvars hkeywords "say let \u2028\t= b\r()".toList
  obtain ⟨hempty', -, -, hwords'⟩ := empty_names_offered hfuncs hvars hkeywords "let x = ()".toList
  have htakes : Binding.TakesNameless "say let \u2028\t= b\r()".toList :=
    hempty.1 (by decide +kernel)
  have hnone : ¬ Binding.TakesNameless "let x = ()".toList :=
    mt hempty'.2 (by decide +kernel)
  exact ⟨hfuncs, hvars, hkeywords, htakes, hgap htakes, (hitems _).2 ⟨rfl, htakes⟩,
    (hwords _ hword).1 htakes, hnone, (hwords' _ hword).2 hnone⟩

/-- Three spaces between the keyword and the equals sign bind the empty name: it is offered, and
two parentheses are taken for it. -/
theorem empty_name_bound :
    [] ∉ Table.builtin.funcs ∧ [] ∉ Table.builtin.vars ∧ [] ∉ Table.builtin.keywords ∧
    [] ∈ boundNames "let   = b\n()".toList ∧
    ⟨[], .variableName⟩ ∈ CompletionItem.forDocument Table.builtin "let   = b\n()".toList ∧
    WordClass.ofWord Table.builtin (boundNames "let   = b\n()".toList) "()".toList ≠
      ⟨.label, []⟩ := by
  decide +kernel

end DawnServer
