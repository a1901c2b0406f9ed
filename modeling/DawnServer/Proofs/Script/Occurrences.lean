import DawnServer.Proofs.Script.Bindings
import DawnServer.Proofs.Text.Trimming

/-!
# Occurrences of bindings

A binding occurs in a text at indices that its parts run between (`Occurs`).  Of all that occur,
the search takes the first, among those that start together the one whose parts end last, and
goes on where it stops (`Selects`).  The names that a text binds are those of the occurrences
that are selected so, and what can be said of these follows from the selection alone
(`bound_names_selected`).
-/

namespace DawnServer

namespace Binding

open Text

/-! ## Occurrences -/

/-- Indices in a text at which the parts of a binding begin and end. -/
structure Occurrence where
  start : Nat
  nameStart : Nat
  nameStop : Nat
  /-- Where the equals sign stands. -/
  sign : Nat
  valueStart : Nat
  stop : Nat
  deriving Repr, DecidableEq

namespace Occurrence

def name (text : Text) (o : Occurrence) : Text := text.extract o.nameStart o.nameStop

/-- Where the parts behind the keyword end, the earlier before the later. -/
def ends (o : Occurrence) : ℕ ×ₗ ℕ ×ₗ ℕ ×ₗ ℕ ×ₗ ℕ :=
  toLex (o.nameStart, toLex (o.nameStop, toLex (o.sign, toLex (o.valueStart, o.stop))))

def Overlaps (o other : Occurrence) : Prop := o.start < other.stop ∧ other.start < o.stop

end Occurrence

/-- Whether a binding occurs in a text between these indices. -/
structure Occurs (text : Text) (o : Occurrence) : Prop where
  keyword : text.extract o.start (o.start + 3) = keyword
  lead : Gap (text.extract (o.start + 3) o.nameStart)
  name : Stretch (text.extract o.nameStart o.nameStop)
  space : Gap (text.extract o.nameStop o.sign)
  sign : text[o.sign]? = some '='
  gap : Gap (text.extract (o.sign + 1) o.valueStart)
  value : Stretch (text.extract o.valueStart o.stop)
  within : o.stop ≤ text.length

def placed (b : Binding) (start : Nat) : Occurrence where
  start := start
  nameStart := start + 3 + b.lead.length
  nameStop := start + 3 + b.lead.length + b.name.length
  sign := start + 3 + b.lead.length + b.name.length + b.space.length
  valueStart := start + 3 + b.lead.length + b.name.length + b.space.length + 1 + b.gap.length
  stop := start + 3 + b.lead.length + b.name.length + b.space.length + 1 + b.gap.length +
    b.value.length

theorem extract_of_drop {text run rest : Text} {i : Nat} (h : text.drop i = run ++ rest) :
    text.extract i (i + run.length) = run := by
  rw [List.extract, h, Nat.add_sub_cancel_left, List.take_left' rfl]

theorem drop_of_drop {text run rest : Text} {i : Nat} (h : text.drop i = run ++ rest) :
    text.drop (i + run.length) = rest := by
  rw [← List.drop_drop, h, List.drop_left' rfl]

theorem stop_placed (b : Binding) (start : Nat) :
    (b.placed start).stop = start + b.chars.length := by
  simp [placed, chars, keyword]
  omega

theorem name_placed {b : Binding} {text rest : Text} {start : Nat}
    (hdrop : text.drop start = b.chars ++ rest) : (b.placed start).name text = b.name :=
  extract_of_drop (drop_of_drop (drop_of_drop (hdrop.trans (b.chars_append rest))))

theorem Formed.occurs {b : Binding} (h : b.Formed) {text rest : Text} {start : Nat}
    (hdrop : text.drop start = b.chars ++ rest) : Occurs text (b.placed start) := by
  have hkeyword := hdrop.trans (b.chars_append rest)
  have hlead := drop_of_drop hkeyword
  have hname := drop_of_drop hlead
  have hspace := drop_of_drop hname
  have hsign := drop_of_drop hspace
  have hgap := drop_of_drop hsign
  have hvalue := drop_of_drop hgap
  constructor
  · exact extract_of_drop hkeyword
  · exact (extract_of_drop hlead).symm ▸ h.lead
  · exact (extract_of_drop hname).symm ▸ h.name
  · exact (extract_of_drop hspace).symm ▸ h.space
  · have hhead := congrArg List.head? hsign
    rwa [List.head?_drop] at hhead
  · exact (extract_of_drop hgap).symm ▸ h.gap
  · exact (extract_of_drop hvalue).symm ▸ h.value
  · have hlength := congrArg List.length hdrop
    have hpos := List.length_pos_iff.2 b.chars_ne_nil
    rw [List.length_drop, List.length_append] at hlength
    rw [stop_placed]
    omega

theorem bounds_of_extract {text : Text} {i j : Nat} (h : text.extract i j ≠ []) :
    i < j ∧ i < text.length := by
  have hpos := List.length_pos_iff.2 h
  rw [List.extract, List.length_take, List.length_drop] at hpos
  omega

theorem length_extract {text : Text} {i j : Nat} (h : j ≤ text.length) :
    (text.extract i j).length = j - i := by
  rw [List.extract, List.length_take, List.length_drop]
  omega

theorem drop_eq_extract_append {text : Text} {i j : Nat} (h : text.extract i j ≠ []) :
    text.drop i = text.extract i j ++ text.drop j := by
  have hcut := List.take_append_drop (j - i) (text.drop i)
  rw [List.drop_drop, Nat.add_sub_cancel' (bounds_of_extract h).1.le] at hcut
  exact hcut.symm

theorem extract_append_extract (text : Text) {i j k : Nat} (hij : i ≤ j) (hjk : j ≤ k) :
    text.extract i j ++ text.extract j k = text.extract i k := by
  have hwidth : k - i = (j - i) + (k - j) := by omega
  rw [List.extract, List.extract, List.extract, hwidth, List.take_add, List.drop_drop,
    Nat.add_sub_cancel' hij]

namespace Occurs

variable {text : Text} {o : Occurrence}

theorem increasing (h : Occurs text o) :
    o.start + 3 < o.nameStart ∧ o.nameStart < o.nameStop ∧ o.nameStop < o.sign ∧
      o.sign + 1 < o.valueStart ∧ o.valueStart < o.stop :=
  ⟨(bounds_of_extract h.lead.1).1, (bounds_of_extract h.name.1).1, (bounds_of_extract h.space.1).1,
    (bounds_of_extract h.gap.1).1, (bounds_of_extract h.value.1).1⟩

theorem start_lt_stop (h : Occurs text o) : o.start < o.stop := by
  have hincreasing := h.increasing
  omega

/-- **Where a binding occurs, one stands** with these indices. -/
theorem exists_formed (h : Occurs text o) :
    ∃ (b : Binding) (rest : Text), text.drop o.start = b.chars ++ rest ∧ b.Formed ∧
      o = b.placed o.start := by
  have hincreasing := h.increasing
  have hwithin := h.within
  refine ⟨⟨text.extract (o.start + 3) o.nameStart, o.name text, text.extract o.nameStop o.sign,
    text.extract (o.sign + 1) o.valueStart, text.extract o.valueStart o.stop⟩, text.drop o.stop,
    ?_, ⟨h.lead, h.name, h.space, h.gap, h.value⟩, ?_⟩
  · have hkeyword : text.extract o.start (o.start + 3) ≠ [] := by
      rw [h.keyword]
      exact List.cons_ne_nil _ _
    have hsign : text.drop o.sign = ['='] ++ text.drop (o.sign + 1) := by
      rw [List.drop_eq_getElem?_toList_append, h.sign]
      rfl
    rw [chars_append, drop_eq_extract_append hkeyword, drop_eq_extract_append h.lead.1,
      drop_eq_extract_append h.name.1, drop_eq_extract_append h.space.1, hsign,
      drop_eq_extract_append h.gap.1, drop_eq_extract_append h.value.1, h.keyword]
    rfl
  · obtain ⟨start, nameStart, nameStop, sign, valueStart, stop⟩ := o
    simp only at hincreasing hwithin
    simp only [placed, Occurrence.name, Occurrence.mk.injEq, true_and]
    rw [length_extract (by omega), length_extract (by omega), length_extract (by omega),
      length_extract (by omega), length_extract (by omega)]
    omega

end Occurs

/-! ## The selection -/

/-- The occurrence that a search from an index takes: the first, and of those that start there
the one whose parts end last. -/
structure IsNext (text : Text) (index : Nat) (o : Occurrence) : Prop where
  occurs : Occurs text o
  le_start : index ≤ o.start
  first : ∀ other, Occurs text other → index ≤ other.start → o.start ≤ other.start
  greatest : ∀ other, Occurs text other → other.start = o.start → other.ends ≤ o.ends

/-- The occurrences that a search from an index takes one after the other. -/
inductive Selects (text : Text) : Nat → List Occurrence → Prop
  | ended {index : Nat} : (∀ o, Occurs text o → o.start < index) → Selects text index []
  | next {index : Nat} {o : Occurrence} {rest : List Occurrence} :
      IsNext text index o → Selects text o.stop rest → Selects text index (o :: rest)

theorem ends_placed_le {b other : Binding} (h : b.widths ≤ other.widths) (start : Nat) :
    (b.placed start).ends ≤ (other.placed start).ends := by
  simp only [widths, Occurrence.ends, placed, Prod.Lex.toLex_le_toLex] at h ⊢
  omega

theorem isNext_placed {text rest : Text} {b : Binding} {index : Nat}
    (hdrop : text.drop index = b.chars ++ rest) (hat : at? (b.chars ++ rest) = some b)
    (hformed : b.Formed) : IsNext text index (b.placed index) := by
  refine ⟨hformed.occurs hdrop, Nat.le_refl _, fun _ _ hle => hle, fun other hother hstart => ?_⟩
  obtain ⟨c, behind, hstands, hc, hplaced⟩ := hother.exists_formed
  have hsame : c.chars ++ behind = b.chars ++ rest := by
    rw [← hstands, hstart]
    exact hdrop
  obtain ⟨found, hfound, hle⟩ := hc.exists_at? behind
  rw [hsame, hat] at hfound
  obtain rfl := Option.some.inj hfound
  rw [hplaced, hstart]
  exact ends_placed_le hle index

theorem start_ne_of_at?_eq_none {text behind : Text} {index : Nat}
    (hdrop : text.drop index = behind) (hnone : at? behind = none) {o : Occurrence}
    (h : Occurs text o) : o.start ≠ index := by
  rintro rfl
  obtain ⟨b, rest, hstands, hformed, -⟩ := h.exists_formed
  obtain ⟨found, hfound, -⟩ := hformed.exists_at? rest
  rw [← hstands, hdrop, hnone] at hfound
  cases hfound

namespace Selects

variable {text : Text} {index : Nat} {chosen : List Occurrence}

theorem pass (h : Selects text (index + 1) chosen)
    (hnone : ∀ o, Occurs text o → o.start ≠ index) : Selects text index chosen := by
  cases h with
  | ended hended =>
    refine .ended fun o ho => ?_
    have hlt := hended o ho
    have hne := hnone o ho
    omega
  | next hnext hrest =>
    refine .next ⟨hnext.occurs, Nat.le_of_succ_le hnext.le_start, fun other hother hle => ?_,
      hnext.greatest⟩ hrest
    have hne := hnone other hother
    exact hnext.first other hother (by omega)

/-- **The search selects**: from any index of a text on, the bindings that are found in the rest
of the text are those that are selected there. -/
theorem exists_find {behind : Text} (hdrop : text.drop index = behind) :
    ∃ chosen, Selects text index chosen ∧
      chosen.map (Occurrence.name text) = (find behind).map Binding.name := by
  induction behind using find_induction generalizing index with
  | nil =>
    refine ⟨[], .ended fun o ho => ?_, rfl⟩
    have hlt := ho.start_lt_stop
    have hwithin := ho.within
    have hlength := List.drop_eq_nil_iff.1 hdrop
    omega
  | step c behind hnone ih =>
    have hfront : text.drop index = [c] ++ behind := hdrop
    have hbehind : text.drop (index + 1) = behind := drop_of_drop hfront
    obtain ⟨chosen, hchosen, hnames⟩ := ih hbehind
    refine ⟨chosen, hchosen.pass fun o => start_ne_of_at?_eq_none hdrop hnone, ?_⟩
    rw [find_of_none hnone, hnames]
  | found b rest hat hformed ih =>
    have hrest : text.drop (b.placed index).stop = rest := by
      rw [stop_placed]
      exact drop_of_drop hdrop
    obtain ⟨chosen, hchosen, hnames⟩ := ih hrest
    refine ⟨b.placed index :: chosen, .next (isNext_placed hdrop hat hformed) hchosen, ?_⟩
    rw [find_of_at? hat, List.map_cons, List.map_cons, hnames, name_placed hdrop]

end Selects

/-! ## What follows from the selection -/

theorem IsNext.unique {text : Text} {index : Nat} {o other : Occurrence} (h : IsNext text index o)
    (hother : IsNext text index other) : o = other := by
  have hstart : o.start = other.start := Nat.le_antisymm
    (h.first other hother.occurs hother.le_start) (hother.first o h.occurs h.le_start)
  have hends : o.ends = other.ends := le_antisymm
    (hother.greatest o h.occurs hstart) (h.greatest other hother.occurs hstart.symm)
  obtain ⟨start, nameStart, nameStop, sign, valueStart, stop⟩ := o
  simp only [Occurrence.ends, toLex_inj, Prod.mk.injEq] at hstart hends
  obtain ⟨rfl, rfl, rfl, rfl, rfl⟩ := hends
  rw [hstart]

theorem extract_succ {text : Text} {i j : Nat} {c : Char} (hle : i ≤ j) (h : text[j]? = some c) :
    text.extract i (j + 1) = text.extract i j ++ [c] := by
  have hc : (text.drop i)[j - i]? = some c := by
    rw [List.getElem?_drop, Nat.add_sub_cancel' hle, h]
  rw [List.extract, Nat.succ_sub hle, List.take_add_one, hc]
  rfl

/-- **An occurrence that is taken ends with its line**: its value could be longer otherwise. -/
theorem IsNext.isBreak_stop {text : Text} {index : Nat} {o : Occurrence} (h : IsNext text index o) :
    ∀ c ∈ text[o.stop]?, isBreak c = true := by
  intro c hc
  by_contra hbreak
  have hunbroken : isBreak c = false := Bool.eq_false_iff.2 hbreak
  have hincreasing := h.occurs.increasing
  have hvalue : text.extract o.valueStart (o.stop + 1) = text.extract o.valueStart o.stop ++ [c] :=
    extract_succ hincreasing.2.2.2.2.le hc
  have hlonger : Occurs text { o with stop := o.stop + 1 } := by
    refine ⟨h.occurs.keyword, h.occurs.lead, h.occurs.name, h.occurs.space, h.occurs.sign,
      h.occurs.gap, ?_, (List.getElem?_eq_some_iff.1 hc).1⟩
    rw [hvalue]
    exact ⟨by simp, unbroken_append.2
      ⟨h.occurs.value.2, unbroken_cons.2 ⟨hunbroken, unbroken_nil⟩⟩⟩
  have hle := h.greatest _ hlonger rfl
  simp only [Occurrence.ends, Prod.Lex.toLex_le_toLex] at hle
  omega

theorem IsNext.filledLines_drop {text : Text} {index : Nat} {o : Occurrence}
    (h : IsNext text index o) :
    filledLines (text.drop o.stop) + 1 ≤ filledLines (text.drop index) := by
  have hincreasing := h.occurs.increasing
  have hindex := h.le_start
  obtain ⟨init, c, hvalue⟩ : ∃ init c, text.extract o.valueStart o.stop = init ++ [c] :=
    ⟨_, _, (List.dropLast_append_getLast h.occurs.value.1).symm⟩
  have hunbroken := h.occurs.value.2
  rw [hvalue] at hunbroken
  have hc : isBreak c = false :=
    hunbroken c (List.mem_append_right init (List.mem_singleton_self c))
  have hdrop : text.drop (o.valueStart + init.length) = c :: text.drop o.stop := by
    apply drop_of_drop
    rw [drop_eq_extract_append h.occurs.value.1, hvalue, List.append_assoc]
    rfl
  have hbehind : ∀ d ∈ (text.drop o.stop).head?, isBreak d = true := by
    rw [List.head?_drop]
    exact h.isBreak_stop
  rw [← filledLines_cons_of_last hc hbehind, ← hdrop]
  exact filledLines_drop_le_drop text (by omega)

namespace Selects

variable {text : Text} {index : Nat} {chosen : List Occurrence}

theorem unique (h : Selects text index chosen) {others : List Occurrence}
    (hothers : Selects text index others) : chosen = others := by
  induction h generalizing others with
  | ended hended =>
    cases hothers with
    | ended => rfl
    | next hnext =>
      have hlt := hended _ hnext.occurs
      exact absurd hnext.le_start (Nat.not_le.2 hlt)
  | next hnext _ ih =>
    cases hothers with
    | ended hended =>
      have hlt := hended _ hnext.occurs
      exact absurd hnext.le_start (Nat.not_le.2 hlt)
    | next hother hrest =>
      obtain rfl := hnext.unique hother
      rw [ih hrest]

theorem exists_isNext (h : Selects text index chosen) {o : Occurrence} (ho : o ∈ chosen) :
    ∃ place, index ≤ place ∧ IsNext text place o := by
  induction h with
  | ended => cases ho
  | next hnext _ ih =>
    rcases List.mem_cons.1 ho with rfl | ho
    · exact ⟨_, Nat.le_refl _, hnext⟩
    · obtain ⟨place, hle, hnext'⟩ := ih ho
      have hstart := hnext.le_start
      have hlt := hnext.occurs.start_lt_stop
      exact ⟨place, by omega, hnext'⟩

theorem pairwise (h : Selects text index chosen) :
    chosen.Pairwise fun o other => o.stop ≤ other.start := by
  induction h with
  | ended => exact .nil
  | next _ hrest ih =>
    refine .cons (fun other hother => ?_) ih
    obtain ⟨place, hle, hnext⟩ := hrest.exists_isNext hother
    exact hle.trans hnext.le_start

theorem mem_or_overlaps (h : Selects text index chosen) {o : Occurrence} (ho : Occurs text o)
    (hindex : index ≤ o.start) :
    o ∈ chosen ∨ ∃ other ∈ chosen, other.start ≤ o.start ∧ other.Overlaps o := by
  induction h with
  | ended hended => exact absurd hindex (Nat.not_le.2 (hended o ho))
  | @next _ first rest hnext _ ih =>
    have hle := hnext.first o ho hindex
    by_cases hbehind : first.stop ≤ o.start
    · refine (ih hbehind).imp (List.mem_cons_of_mem first) ?_
      rintro ⟨other, hother, hoverlaps⟩
      exact ⟨other, List.mem_cons_of_mem first hother, hoverlaps⟩
    · have hlt := ho.start_lt_stop
      refine .inr ⟨first, List.mem_cons_self, hle, ?_, Nat.not_le.1 hbehind⟩
      omega

theorem length_le (h : Selects text index chosen) :
    chosen.length ≤ filledLines (text.drop index) := by
  induction h with
  | ended => exact Nat.zero_le _
  | next hnext _ ih =>
    have hlines := hnext.filledLines_drop
    rw [List.length_cons]
    omega

end Selects

end Binding

open Text Binding in
/-- **The names that a text binds are those of the bindings that are selected in it.**  There is
one list of occurrences that the selection takes from the front of a text, and its names,
trimmed, are the names that the text binds.  They come in the order of the text without
overlaps, each ends with its line, and there are no more than lines that are not empty.  No name
holds a break or has white space at an end.  What occurs and is not selected overlaps something
selected that does not start behind it. -/
theorem bound_names_selected (text : Text) :
    ∃ chosen : List Occurrence,
      (∀ others, Selects text 0 others ↔ others = chosen) ∧
      boundNames text = chosen.map (fun o => trim (o.name text)) ∧
      chosen.Pairwise (fun o other => o.stop ≤ other.start) ∧
      (∀ o ∈ chosen, ∀ c ∈ text[o.stop]?, isBreak c = true) ∧
      (boundNames text).length ≤ ((lineContents text).filter (· ≠ [])).length ∧
      (∀ name ∈ boundNames text, Unbroken name ∧ Trimmed name) ∧
      ∀ o, Occurs text o → o ∉ chosen →
        ∃ other ∈ chosen, other.start ≤ o.start ∧ other.Overlaps o := by
  have hwhole : text.drop 0 = text := rfl
  obtain ⟨chosen, hchosen, hfound⟩ := Selects.exists_find hwhole
  have hnames : boundNames text = chosen.map fun o => trim (o.name text) := by
    have htrimmed := congrArg (List.map trim) hfound
    rw [List.map_map, List.map_map] at htrimmed
    exact htrimmed.symm
  refine ⟨chosen, fun others => ⟨fun h => h.unique hchosen, fun h => h ▸ hchosen⟩, hnames,
    hchosen.pairwise, fun o ho => ?_, ?_, fun name hname => ?_, fun o ho hnot => ?_⟩
  · obtain ⟨place, -, hnext⟩ := hchosen.exists_isNext ho
    exact hnext.isBreak_stop
  · rw [hnames, List.length_map, ← List.countP_eq_length_filter]
    exact hchosen.length_le
  · rw [hnames] at hname
    obtain ⟨o, ho, rfl⟩ := List.mem_map.1 hname
    obtain ⟨place, -, hnext⟩ := hchosen.exists_isNext ho
    exact ⟨fun c hc => hnext.occurs.name.2 c (mem_of_mem_trim hc), trimmed_trim _⟩
  · exact (hchosen.mem_or_overlaps ho (Nat.zero_le _)).resolve_left hnot

/-- A name runs up to the last equals sign that a value can follow, and white space may run over
the end of a line. -/
example : boundNames "let a = b = c\nlet\nd = e".toList = ["a = b".toList, "d".toList] := by
  decide +kernel

end DawnServer
