import DawnServer.Text.Basic
import Mathlib.Data.List.DropRight

/-!
# Trimmed texts

What is left of a text without the white space at its ends (`trimmed_trim`), of a line up to
its first space, and of a text that is split at a character; and which texts these operations
leave as they are.
-/

namespace DawnServer.Text

structure Trimmed (text : Text) : Prop where
  front : ∀ c ∈ text.head?, isBlank c = false
  back : ∀ c ∈ text.getLast?, isBlank c = false

theorem all_not_isBlank {found : Option Char} :
    found.all (!isBlank ·) ↔ ∀ c ∈ found, isBlank c = false := by
  cases found <;> simp

instance (text : Text) : Decidable (Trimmed text) :=
  decidable_of_iff (text.head?.all (!isBlank ·) ∧ text.getLast?.all (!isBlank ·))
    ⟨fun h => ⟨all_not_isBlank.1 h.1, all_not_isBlank.1 h.2⟩,
      fun h => ⟨all_not_isBlank.2 h.front, all_not_isBlank.2 h.back⟩⟩

theorem trim_prefix_trimStart (text : Text) : trim text <+: trimStart text :=
  List.rdropWhile_prefix isBlank (trimStart text)

theorem mem_of_mem_trim {text : Text} {c : Char} (h : c ∈ trim text) : c ∈ text := by
  have hstart : c ∈ trimStart text := (trim_prefix_trimStart text).subset h
  exact (List.dropWhile_suffix isBlank).subset hstart

theorem isBlank_of_mem_head?_trimStart {text : Text} {c : Char}
    (h : c ∈ (trimStart text).head?) : isBlank c = false := by
  have hhead := List.head?_dropWhile_not isBlank text
  rw [trimStart, Option.mem_def] at h
  rwa [h] at hhead

theorem exists_trim (text : Text) : ∃ front back, text = front ++ trim text ++ back ∧
    (∀ c ∈ front, isBlank c = true) ∧ ∀ c ∈ back, isBlank c = true := by
  have hback : trim text ++ (trimStart text).rtakeWhile isBlank = trimStart text :=
    List.rdropWhile_append_rtakeWhile
  refine ⟨text.takeWhile isBlank, (trimStart text).rtakeWhile isBlank, ?_,
    fun _ => List.mem_takeWhile_imp, fun _ => List.mem_rtakeWhile_imp⟩
  rw [List.append_assoc, hback, trimStart, List.takeWhile_append_dropWhile]

theorem trimmed_trim (text : Text) : Trimmed (trim text) := by
  constructor
  · intro c hc
    obtain ⟨rest, hrest⟩ := trim_prefix_trimStart text
    have hhead : c ∈ (trimStart text).head? := by
      rw [← hrest, List.head?_append, Option.mem_def.1 hc]
      rfl
    exact isBlank_of_mem_head?_trimStart hhead
  · intro c hc
    rw [trim, trimEnd, List.getLast?_reverse] at hc
    exact isBlank_of_mem_head?_trimStart hc

theorem trimStart_eq_self {text : Text} (h : ∀ c ∈ text.head?, isBlank c = false) :
    trimStart text = text := by
  cases text with
  | nil => rfl
  | cons c text =>
    have hc : isBlank c = false := h c rfl
    exact List.dropWhile_cons_of_neg (by simp [hc])

theorem trimStart_blank_append {blanks : Text} (h : ∀ c ∈ blanks, isBlank c = true) (text : Text) :
    trimStart (blanks ++ text) = trimStart text := List.dropWhile_append_of_pos h

theorem trimEnd_append_blank (text : Text) {blanks : Text} (h : ∀ c ∈ blanks, isBlank c = true) :
    trimEnd (text ++ blanks) = trimEnd text := by
  rw [trimEnd, List.reverse_append, trimStart_blank_append fun c hc => h c (List.mem_reverse.1 hc)]
  rfl

theorem trim_blank_append {blanks : Text} (h : ∀ c ∈ blanks, isBlank c = true) (text : Text) :
    trim (blanks ++ text) = trim text := by
  rw [trim, trimStart_blank_append h, trim]

theorem trim_append_blank (text : Text) {blanks : Text} (h : ∀ c ∈ blanks, isBlank c = true) :
    trim (text ++ blanks) = trim text := by
  have hblanks : trimStart blanks = [] := List.dropWhile_eq_nil_iff.2 h
  rw [trim, trim, trimStart, List.dropWhile_append]
  split
  · next hempty =>
    have htext : trimStart text = [] := List.isEmpty_iff.1 hempty
    rw [htext, ← trimStart, hblanks]
  · exact trimEnd_append_blank (trimStart text) h

theorem trimEnd_concat {c : Char} (h : isBlank c = false) (text : Text) :
    trimEnd (text ++ [c]) = text ++ [c] := by
  rw [trimEnd, List.reverse_concat, trimStart_eq_self, List.reverse_cons, List.reverse_reverse]
  simpa using h

theorem Trimmed.trim_eq {text : Text} (h : Trimmed text) : trim text = text := by
  have hreverse : trimStart text.reverse = text.reverse := by
    apply trimStart_eq_self
    rw [List.head?_reverse]
    exact h.back
  rw [trim, trimStart_eq_self h.front, trimEnd, hreverse, List.reverse_reverse]

theorem trimStart_eq_nil_iff {text : Text} :
    trimStart text = [] ↔ ∀ c ∈ text, isBlank c = true := List.dropWhile_eq_nil_iff

theorem trim_eq_nil_iff {text : Text} : trim text = [] ↔ ∀ c ∈ text, isBlank c = true := by
  rw [← trimStart_eq_nil_iff, trim, trimEnd, List.reverse_eq_nil_iff, trimStart_eq_nil_iff]
  constructor
  · intro h
    cases hstart : trimStart text with
    | nil => rfl
    | cons c rest =>
      have hhead : c ∈ (trimStart text).head? := by
        rw [hstart]
        rfl
      have hc : isBlank c = false := isBlank_of_mem_head?_trimStart hhead
      have hblank := h c (by simp [hstart])
      rw [hc] at hblank
      cases hblank
  · intro h
    simp [h]

theorem trimmed_of_solid {text : Text} (h : ∀ c ∈ text, isBlank c = false) : Trimmed text :=
  ⟨fun c hc => h c (List.mem_of_mem_head? hc), fun c hc => h c (List.mem_of_mem_getLast? hc)⟩

-- The left side is decided along the text, the right side by a search among all characters.
theorem any_isBlank_eq_false {text : Text} :
    text.any isBlank = false ↔ ∀ c ∈ text, isBlank c = false := by
  simp

theorem dropLast?_eq_some {c : Char} {text rest : Text} :
    dropLast? c text = some rest ↔ text = rest ++ [c] := by
  constructor
  · intro h
    fun_induction dropLast? c text generalizing rest with
    | case1 => cases h
    | case2 =>
      cases h
      rfl
    | case3 => cases h
    | case4 d e text ih =>
      obtain ⟨init, hinit, rfl⟩ := Option.map_eq_some_iff.1 h
      rw [ih hinit]
      rfl
  · rintro rfl
    exact dropLast?_append c rest

theorem mem_of_mem_dropLastOf {c d : Char} {text : Text} (h : d ∈ dropLastOf c text) :
    d ∈ text := by
  cases hdrop : dropLast? c text with
  | none => rwa [dropLastOf, hdrop] at h
  | some rest =>
    rw [dropLastOf, hdrop] at h
    rw [dropLast?_eq_some.1 hdrop]
    exact List.mem_append_left _ h

theorem mem_of_mem_cut {c d : Char} {text : Text} (h : d ∈ (cut c text).1) :
    d ≠ c ∧ d ∈ text := by
  induction text with
  | nil => cases h
  | cons e text ih =>
    by_cases he : e = c
    · rw [cut, if_pos he] at h
      cases h
    · rw [cut, if_neg he] at h
      rcases List.mem_cons.1 h with rfl | h
      · exact ⟨he, List.mem_cons_self⟩
      · exact ⟨(ih h).1, List.mem_cons_of_mem _ (ih h).2⟩

theorem cut_eq_of_notMem {c : Char} {text : Text} (h : c ∉ text) : cut c text = (text, none) := by
  induction text with
  | nil => rfl
  | cons d text ih =>
    have hd : d ≠ c := fun hd => h (hd ▸ List.mem_cons_self)
    rw [cut, if_neg hd, ih fun hc => h (List.mem_cons_of_mem _ hc)]

theorem cut_of_notMem {c : Char} {text : Text} (h : c ∉ text) : (cut c text).1 = text := by
  rw [cut_eq_of_notMem h]

theorem cut_append_cons {c : Char} {front : Text} (h : c ∉ front) (rest : Text) :
    cut c (front ++ c :: rest) = (front, some rest) := by
  induction front with
  | nil => rw [List.nil_append, cut, if_pos rfl]
  | cons d front ih =>
    have hd : d ≠ c := fun hd => h (hd ▸ List.mem_cons_self)
    rw [List.cons_append, cut, if_neg hd, ih fun hc => h (List.mem_cons_of_mem _ hc)]

theorem cut_fst_append (c : Char) (text : Text) :
    (cut c text).1 ++ ((cut c text).2.map (c :: ·)).getD [] = text := by
  induction text with
  | nil => rfl
  | cons d text ih =>
    by_cases hd : d = c
    · rw [cut, if_pos hd, hd]
      rfl
    · rw [cut, if_neg hd, List.cons_append, ih]

theorem cut_append_of_mem {c : Char} {front : Text} (h : c ∈ front) (rest : Text) :
    (cut c (front ++ rest)).1 = (cut c front).1 := by
  induction front with
  | nil => cases h
  | cons d front ih =>
    by_cases hd : d = c
    · rw [List.cons_append, cut, if_pos hd, cut, if_pos hd]
    · have hfront : c ∈ front := (List.mem_cons.1 h).resolve_left (Ne.symm hd)
      rw [List.cons_append, cut, if_neg hd, cut, if_neg hd, ih hfront]

/-- A row is a last piece without the separator, or such a piece and the separator in front of
another row. -/
@[elab_as_elim]
theorem separated_induction {α : Type} [BEq α] [LawfulBEq α] (c : α) {motive : List α → Prop}
    (last : ∀ piece, c ∉ piece → motive piece)
    (next : ∀ piece rest, c ∉ piece → motive rest → motive (piece ++ c :: rest))
    (text : List α) : motive text := by
  induction hlength : text.length using Nat.strong_induction_on generalizing text with
  | _ length ih =>
    by_cases hc : c ∈ text
    · obtain ⟨front, rest, rfl, hfront⟩ := List.eq_append_cons_of_mem hc
      refine next front rest hfront (ih rest.length ?_ rest rfl)
      rw [← hlength, List.length_append, List.length_cons]
      omega
    · exact last text hc

theorem notMem_of_mem_splitOn {α : Type} [BEq α] [LawfulBEq α] {c : α} {text piece : List α}
    (h : piece ∈ text.splitOn c) : c ∉ piece := by
  induction text using separated_induction c with
  | last front hfront =>
    rw [List.splitOn_eq_singleton hfront, List.mem_singleton] at h
    rwa [h]
  | next front rest hfront ih =>
    rw [List.splitOn_append_cons_self_of_not_mem hfront, List.mem_cons] at h
    rcases h with rfl | h
    · exact hfront
    · exact ih h

theorem splitOn_flatMap {c : Char} {pieces : List Text} (h : ∀ piece ∈ pieces, c ∉ piece) :
    (pieces.flatMap (· ++ [c])).splitOn c = pieces ++ [[]] := by
  induction pieces with
  | nil => rfl
  | cons piece pieces ih =>
    have hrest := ih fun other hother => h other (List.mem_cons_of_mem _ hother)
    rw [List.flatMap_cons, List.append_assoc, List.singleton_append,
      List.splitOn_append_cons_self_of_not_mem (h piece List.mem_cons_self), hrest]
    rfl

end DawnServer.Text
