import DawnServer.Proofs.Text.Lines
import DawnServer.Text.Basic

/-!
# Texts with one kind of break

In a unified text every break is a line feed (`unify`).  It is given by the contents of its
lines (`unify_eq_joinLines`), and so is the text that lines are joined to with any break
(`lineContents_joinLines`); hence joining the lines of a text anew changes nothing that
unifying does not.
-/

namespace DawnServer.Text

def joinLines (ending : Break) (contents : List Text) : Text :=
  List.intercalate ending.chars contents

def unifyChar (c : Char) : Char := if isBreak c then '\n' else c

/-- A text with a line feed for every break. -/
def unify : Text → Text
  | [] => []
  | '\r' :: '\n' :: text => '\n' :: unify text
  | c :: text => unifyChar c :: unify text

theorem unifyChar_of_not_isBreak {c : Char} (h : isBreak c = false) : unifyChar c = c := by
  simp [unifyChar, h]

theorem isBlank_unifyChar (c : Char) : isBlank (unifyChar c) = isBlank c := by
  unfold unifyChar
  split
  · next h =>
    rcases Bool.or_eq_true_iff.1 h with hcr | hlf
    · rw [beq_iff_eq.1 hcr]
      rfl
    · rw [beq_iff_eq.1 hlf]
  · rfl

theorem isBreak_unifyChar (c : Char) : isBreak (unifyChar c) = isBreak c := by
  unfold unifyChar
  split
  · next h =>
    rw [h]
    rfl
  · rfl

theorem unify_cons {c : Char} {text : Text} (h : ¬ CutsBreak [c] text) :
    unify (c :: text) = unifyChar c :: unify text := by
  rw [unify]
  rintro tail rfl rfl
  exact h ⟨rfl, rfl⟩

theorem unify_cons_of_not_isBreak {c : Char} (h : isBreak c = false) (text : Text) :
    unify (c :: text) = c :: unify text := by
  have hwhole : ¬ CutsBreak ([] ++ [c]) text :=
    not_cutsBreak_of_last (List.cons_ne_nil c []) (unbroken_cons.2 ⟨h, unbroken_nil⟩)
  rw [unify_cons hwhole, unifyChar_of_not_isBreak h]

theorem unify_append_of_unbroken {front : Text} (h : Unbroken front) (text : Text) :
    unify (front ++ text) = front ++ unify text := by
  induction front with
  | nil => rfl
  | cons c front ih =>
    obtain ⟨hc, hf⟩ := unbroken_cons.1 h
    rw [List.cons_append, unify_cons_of_not_isBreak hc, ih hf]
    rfl

theorem unify_of_unbroken {content : Text} (h : Unbroken content) : unify content = content := by
  have happend := unify_append_of_unbroken h []
  rwa [List.append_nil, unify, List.append_nil] at happend

theorem unify_break_append {ending : Break} {rest : Text} (h : ending.Precedes rest) :
    unify (ending.chars ++ rest) = '\n' :: unify rest := by
  cases ending with
  | none => exact absurd rfl h.1
  | lf => exact unify_cons fun hcut => absurd hcut.1 (by decide)
  | crlf => rfl
  | cr => exact unify_cons fun hcut => h.2 rfl hcut.2

/-- Where the parts of a text do not meet inside a break, it is unified part by part. -/
theorem unify_append {a b : Text} (h : ¬ CutsBreak a b) :
    unify (a ++ b) = unify a ++ unify b := by
  induction a using lines_induction with
  | last content hc => rw [unify_append_of_unbroken hc, unify_of_unbroken hc]
  | line content ending rest hc he ih =>
    obtain ⟨he', hrest⟩ := he.append h
    rw [List.append_assoc, List.append_assoc, unify_append_of_unbroken hc,
      unify_break_append he', ih hrest, unify_append_of_unbroken hc, unify_break_append he]
    simp

theorem unify_eq_joinLines (text : Text) : unify text = joinLines .lf (lineContents text) := by
  induction text using lines_induction with
  | last content hc =>
    rw [unify_of_unbroken hc, lineContents_of_unbroken hc, joinLines, List.intercalate_singleton]
  | line content ending rest hc he ih =>
    rw [unify_append_of_unbroken hc, unify_break_append he, ih, lineContents_line hc he,
      joinLines, joinLines, List.intercalate_cons_of_ne_nil (lineContents_ne_nil rest)]
    simp [Break.chars]

theorem head?_joinLines_cr {contents : List Text} (h : ∀ content ∈ contents, Unbroken content) :
    (joinLines .cr contents).head? ≠ some '\n' := by
  cases contents with
  | nil => simp [joinLines]
  | cons content contents =>
    have hc := head?_ne_lf_of_unbroken (h content List.mem_cons_self)
    cases contents with
    | nil => rwa [joinLines, List.intercalate_singleton]
    | cons next contents =>
      rw [joinLines, List.intercalate_cons_cons, List.append_assoc, List.head?_append]
      cases hhead : content.head? with
      | none => simp [Break.chars]
      | some c => rwa [Option.some_or, ← hhead]

theorem lineContents_joinLines {ending : Break} (hending : ending ≠ .none)
    {contents : List Text} (hne : contents ≠ []) (h : ∀ content ∈ contents, Unbroken content) :
    lineContents (joinLines ending contents) = contents := by
  induction contents with
  | nil => exact absurd rfl hne
  | cons content contents ih =>
    obtain ⟨hc, hcs⟩ := List.forall_mem_cons.1 h
    cases contents with
    | nil => rw [joinLines, List.intercalate_singleton, lineContents_of_unbroken hc]
    | cons next contents =>
      have hprecedes : ending.Precedes (joinLines ending (next :: contents)) := by
        refine ⟨hending, ?_⟩
        rintro rfl
        exact head?_joinLines_cr hcs
      rw [joinLines, List.intercalate_cons_cons, List.append_assoc]
      have hline := lineContents_line hc hprecedes
      rw [joinLines] at hline
      rw [hline, ← joinLines, ih (List.cons_ne_nil _ _) hcs]

theorem lineContents_joinLines_lineContents {ending : Break} (h : ending ≠ .none) (text : Text) :
    lineContents (joinLines ending (lineContents text)) = lineContents text := by
  refine lineContents_joinLines h (lineContents_ne_nil text) fun content hcontent => ?_
  rw [lineContents_eq_map] at hcontent
  obtain ⟨line, hline, rfl⟩ := List.mem_map.1 hcontent
  exact unbroken_of_mem_lines hline

end DawnServer.Text
