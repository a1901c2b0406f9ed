import DawnServer.Completion
import DawnServer.Proofs.Script.Bindings
import DawnServer.Proofs.Text.LineFeeds
import DawnServer.Script.Token

/-!
# Line endings

What is read from a script does not hang on how its lines are broken.  The search for bindings
finds the same in a text and in its unified form (`Binding.find_unify`), although a break of
two characters is one character less there: a break can only stand in white space, where it
goes as a whole or not at all.  So all that is read from a text is given by the contents of
its lines (`line_endings_leave_analysis`).
-/

namespace DawnServer

namespace Binding

open Text

/-! ## Runs -/

section

variable {α : Type} {next : Text → Option α} {f : α → α}

theorem longest?_inLine_unify (hnext : ∀ text, next (unify text) = (next text).map f)
    (text : Text) :
    longest? inLine next (unify text) =
      (longest? inLine next text).map fun (run, a) => (run, f a) := by
  fun_induction unify text with
  | case1 => rfl
  | case2 text ih => rfl
  | case3 c text hwhole ih =>
    rw [longest?_cons, longest?_cons]
    unfold grow
    cases hc : isBreak c with
    | true => simp [inLine, isBreak_unifyChar, hc]
    | false =>
      have hinline : inLine c = true := by simp [inLine, hc]
      rw [unifyChar_of_not_isBreak hc, if_pos hinline, if_pos hinline, ih, hnext]
      cases longest? inLine next text with
      | some longer => rfl
      | none => cases next text <;> rfl

/-- A run of white space is unified with its text, if what comes behind it does not begin
with a line feed: then no run ends inside a break. -/
theorem longest?_isBlank_unify (hnext : ∀ text, next (unify text) = (next text).map f)
    (hfeed : ∀ text, next ('\n' :: text) = none) (text : Text) :
    longest? isBlank next (unify text) =
      (longest? isBlank next text).map fun (run, a) => (unify run, f a) := by
  fun_induction unify text with
  | case1 => rfl
  | case2 text ih =>
    have hcr : isBlank '\r' = true := by decide
    have hlf : isBlank '\n' = true := by decide
    rw [longest?_cons, longest?_cons, longest?_cons, ih, hnext, hfeed]
    unfold grow
    rw [if_pos hcr, if_pos hlf, if_pos hlf]
    cases longest? isBlank next text with
    | some longer => rfl
    | none => cases next text <;> rfl
  | case3 c text hwhole ih =>
    rw [longest?_cons, longest?_cons, ih, hnext]
    unfold grow
    rw [isBlank_unifyChar]
    cases hc : isBlank c with
    | false => rfl
    | true =>
      simp only [if_true]
      cases hlonger : longest? isBlank next text with
      | none =>
        have hone : unify [c] = [unifyChar c] := unify_cons fun hcut => absurd hcut.2 (by simp)
        cases next text with
        | none => rfl
        | some a => simp [hone]
      | some longer =>
        obtain ⟨run, a⟩ := longer
        obtain ⟨rest, rfl, hne, -, -⟩ := exists_of_longest? hlonger
        have hrun : ¬ CutsBreak [c] run := by
          rintro ⟨hcr, hhead⟩
          obtain ⟨tail, rfl⟩ := List.head?_eq_some_iff.1 hhead
          exact hwhole (tail ++ rest) (by simpa using hcr) rfl
        simp [unify_cons hrun]

end

/-! ## Bindings -/

theorem assigned?_unify (text : Text) :
    assigned? (unify text) =
      (assigned? text).map fun (gap, value) => (unify gap, value) := by
  have hvalue : ∀ text, longest? inLine (fun _ => some ()) (unify text) =
      (longest? inLine (fun _ => some ()) text).map id := fun text =>
    longest?_inLine_unify (f := id) (fun _ => rfl) text
  fun_cases unify text with
  | case1 => rfl
  | case2 text => rfl
  | case3 c text hwhole =>
    rw [assigned?_cons, assigned?_cons, longest?_isBlank_unify hvalue (fun _ => rfl) text]
    by_cases hc : c = '='
    · have hsign : unifyChar '=' = '=' := rfl
      rw [hc, if_pos hsign, if_pos rfl]
      cases longest? isBlank (longest? inLine fun _ => some ()) text <;> rfl
    · have hsign : unifyChar c ≠ '=' := by
        unfold unifyChar
        split
        · decide
        · exact hc
      rw [if_neg hc, if_neg hsign]
      rfl

theorem dropLead?_unify {lead : Text} (h : Unbroken lead) (text : Text) :
    dropLead? lead (unify text) = (dropLead? lead text).map unify := by
  induction lead generalizing text with
  | nil => rfl
  | cons k lead ih =>
    obtain ⟨hk, hlead⟩ := unbroken_cons.1 h
    have hne : ∀ c, isBreak c = true → k ≠ c := by
      rintro c hc rfl
      rw [hk] at hc
      cases hc
    fun_cases unify text with
    | case1 => rfl
    | case2 text =>
      rw [dropLead?, if_neg (hne '\n' rfl), dropLead?, if_neg (hne '\r' rfl)]
      rfl
    | case3 c text hwhole =>
      rw [dropLead?, dropLead?]
      cases hc : isBreak c with
      | true =>
        have hbreak : isBreak (unifyChar c) = true := by rw [isBreak_unifyChar, hc]
        rw [if_neg (hne _ hbreak), if_neg (hne c hc)]
        rfl
      | false =>
        rw [unifyChar_of_not_isBreak hc, ih hlead]
        split <;> rfl

/-- The binding in the unified text: the runs of white space may hold breaks. -/
def unified (b : Binding) : Binding :=
  { b with lead := unify b.lead, space := unify b.space, gap := unify b.gap }

theorem runs?_unify (text : Text) :
    runs? (unify text) =
      (runs? text).map fun (lead, name, space, gap, value) =>
        (unify lead, name, unify space, unify gap, value) := by
  have hspace := longest?_isBlank_unify assigned?_unify fun _ => rfl
  have hname := longest?_inLine_unify hspace
  exact longest?_isBlank_unify hname (fun _ => rfl) text

theorem unbroken_keyword : Unbroken keyword := by
  simp [Unbroken, keyword, isBreak]

/-- **A binding stands at the front of a text where one stands in the unified text.** -/
theorem at?_unify (text : Text) : at? (unify text) = (at? text).map unified := by
  unfold at? runsAfter?
  rw [dropLead?_unify unbroken_keyword]
  cases dropLead? keyword text with
  | none => rfl
  | some behind =>
    simp only [Option.map_some, runs?_unify]
    cases runs? behind <;> rfl

theorem chars_unified {b : Binding} (h : b.Formed) (rest : Text) :
    unify (b.chars ++ rest) = b.unified.chars ++ unify rest := by
  have hsign : Unbroken ['='] := by simp [Unbroken, isBreak]
  rw [chars_append, unify_append_of_unbroken unbroken_keyword,
    unify_append (not_cutsBreak_of_head h.name.1 h.name.2),
    unify_append_of_unbroken h.name.2,
    unify_append (not_cutsBreak_of_head (List.cons_ne_nil '=' []) hsign),
    unify_append_of_unbroken hsign,
    unify_append (not_cutsBreak_of_head h.value.1 h.value.2),
    unify_append_of_unbroken h.value.2]
  simp [chars, unified]

/-- **The search finds the same in the unified text.** -/
theorem find_unify (text : Text) : find (unify text) = (find text).map unified := by
  induction text using find_induction with
  | nil => rfl
  | step c text hnone ih =>
    have hunified := at?_unify (c :: text)
    rw [hnone, Option.map_none] at hunified
    rw [find_of_none hnone, ← ih]
    by_cases hcut : CutsBreak [c] text
    · -- The first half of a break is no place of its own in the unified text.
      obtain ⟨tail, rfl⟩ := List.head?_eq_some_iff.1 hcut.2
      obtain rfl : c = '\r' := by simpa using hcut.1
      rfl
    · rw [unify_cons hcut] at hunified ⊢
      exact find_of_none hunified
  | found b rest hat hformed ih =>
    have hunified := at?_unify (b.chars ++ rest)
    rw [hat, Option.map_some, chars_unified hformed] at hunified
    rw [find_of_at? hat, chars_unified hformed, find_of_at? hunified, ih]
    rfl

end Binding

theorem boundNames_unify (text : Text) : boundNames (Text.unify text) = boundNames text := by
  rw [boundNames, Binding.find_unify, List.map_map]
  rfl

theorem boundNames_congr {a b : Text} (h : Text.lineContents a = Text.lineContents b) :
    boundNames a = boundNames b := by
  rw [← boundNames_unify a, ← boundNames_unify b, Text.unify_eq_joinLines,
    Text.unify_eq_joinLines, h]

/-- **Line endings leave the analysis as it is.**  With any break put in place of all that
stand in a text, it binds the same names, its words are the same tokens at the same places,
and the same items are offered for it. -/
theorem line_endings_leave_analysis (table : Table) (spans : SpanLength) (text : Text)
    {ending : Text.Break} (h : ending ≠ .none) :
    boundNames (Text.joinLines ending (Text.lineContents text)) = boundNames text ∧
    Token.classify table spans (Text.joinLines ending (Text.lineContents text)) =
      Token.classify table spans text ∧
    CompletionItem.forDocument table (Text.joinLines ending (Text.lineContents text)) =
      CompletionItem.forDocument table text := by
  have hcontents : Text.lineContents (Text.joinLines ending (Text.lineContents text)) =
      Text.lineContents text := Text.lineContents_joinLines_lineContents h text
  have hnames := boundNames_congr hcontents
  refine ⟨hnames, ?_, ?_⟩
  · rw [Token.classify, Token.classify, hnames, hcontents]
  · rw [CompletionItem.forDocument, CompletionItem.forDocument, hnames]

/-- A binding over two breaks of different kinds, and one behind a third kind: with the break
of two characters for all of them, the names and the tokens are the same. -/
theorem line_endings_leave_analysis_mixed :
    Text.Break.crlf ≠ .none ∧
    Text.joinLines .crlf (Text.lineContents "let a\r\n\r= 1\nlet b = a".toList) =
      "let a\r\n\r\n= 1\r\nlet b = a".toList ∧
    boundNames "let a\r\n\r\n= 1\r\nlet b = a".toList = ["a".toList, "b".toList] ∧
    Token.classify Table.builtin .exact "let a\r\n\r\n= 1\r\nlet b = a".toList =
      Token.classify Table.builtin .exact "let a\r\n\r= 1\nlet b = a".toList ∧
    CompletionItem.forDocument Table.builtin "let a\r\n\r\n= 1\r\nlet b = a".toList =
      CompletionItem.forDocument Table.builtin "let a\r\n\r= 1\nlet b = a".toList := by
  have hending : Text.Break.crlf ≠ .none := by decide
  have hjoined : Text.joinLines .crlf (Text.lineContents "let a\r\n\r= 1\nlet b = a".toList) =
      "let a\r\n\r\n= 1\r\nlet b = a".toList := by decide +kernel
  have hnames : boundNames "let a\r\n\r= 1\nlet b = a".toList = ["a".toList, "b".toList] := by
    decide +kernel
  have hsame := line_endings_leave_analysis Table.builtin .exact
    "let a\r\n\r= 1\nlet b = a".toList hending
  rw [hjoined, hnames] at hsame
  exact ⟨hending, hjoined, hsame⟩

end DawnServer
