import DawnServer.Proofs.Script.Bindings
import DawnServer.Proofs.Text.Trimming

/-!
# Bindings line by line

White space in a binding may run over a line feed, but only behind the keyword and on either side
of the equals sign.  Where two texts meet at a line feed and neither of these stands next to it,
no binding runs over it (`Binding.Formed.within_front`), so the bindings of the first text are
the same with the second behind them (`Binding.at?_append`).  The names that both texts bind are
then those of the first and those of the second (`bound_names_line_by_line`).
-/

namespace DawnServer

open Text

namespace Text

theorem exists_of_append_eq_feed {part tail front behind : Text}
    (h : part ++ tail = front ++ '\n' :: behind)
    (hpart : ∀ rest, part = front ++ '\n' :: rest → behind ≠ rest ++ tail) :
    ∃ left, front = part ++ left ∧ tail = left ++ '\n' :: behind := by
  rcases List.append_eq_append_iff.1 h with ⟨left, hfront, htail⟩ | ⟨rest, hwhole, htail⟩
  · exact ⟨left, hfront, htail⟩
  · cases rest with
    | nil => exact ⟨[], by simp [hwhole], by simp [htail]⟩
    | cons c rest =>
      obtain ⟨rfl, hbehind⟩ := List.cons.inj htail
      exact absurd hbehind (hpart rest hwhole)

theorem not_unbroken_feed {front rest : Text} : ¬ Unbroken (front ++ '\n' :: rest) := fun h =>
  absurd (unbroken_cons.1 (unbroken_append.1 h).2).1 (by decide)

end Text

namespace Binding

/-- Whether no binding can run over the line feed between two texts: what stands next to it, but
for white space, is neither the keyword nor the equals sign. -/
structure Parted (front behind : Text) : Prop where
  keyword : ∀ before blanks, front = before ++ (keyword ++ blanks) → ¬ ∀ c ∈ blanks, isBlank c = true
  sign : ∀ before blanks, front = before ++ '=' :: blanks → ¬ ∀ c ∈ blanks, isBlank c = true
  next : ∀ blanks rest, behind = blanks ++ '=' :: rest → ¬ ∀ c ∈ blanks, isBlank c = true

theorem parted_of_trimmed {front behind : Text} (hkeyword : ¬ keyword <:+ trimEnd front)
    (hsign : ¬ ['='] <:+ trimEnd front) (hnext : ¬ ['='] <+: trimStart behind) :
    Parted front behind := by
  constructor
  · rintro before blanks rfl hblank
    apply hkeyword
    have hword : before ++ (keyword ++ blanks) = before ++ ['l', 'e'] ++ ['t'] ++ blanks := by
      simp [keyword]
    rw [hword, trimEnd_append_blank _ hblank, trimEnd_concat (by decide)]
    exact ⟨before, by simp [keyword]⟩
  · rintro before blanks rfl hblank
    apply hsign
    rw [List.append_cons, trimEnd_append_blank _ hblank, trimEnd_concat (by decide)]
    exact List.suffix_append before ['=']
  · rintro blanks rest rfl hblank
    apply hnext
    rw [trimStart_blank_append hblank, trimStart_eq_self (by simp; decide)]
    exact List.prefix_append ['='] rest

theorem Parted.of_append {before front behind : Text} (h : Parted (before ++ front) behind) :
    Parted front behind := by
  constructor
  · rintro other blanks rfl
    exact h.keyword (before ++ other) blanks (List.append_assoc _ _ _).symm
  · rintro other blanks rfl
    exact h.sign (before ++ other) blanks (List.append_assoc _ _ _).symm
  · exact h.next

theorem blank_of_gap {front rest : Text} (h : Gap (front ++ '\n' :: rest)) :
    (∀ c ∈ front, isBlank c = true) ∧ ∀ c ∈ rest, isBlank c = true := by
  have hblank := List.forall_mem_append.1 h.2
  exact ⟨hblank.1, (List.forall_mem_cons.1 hblank.2).2⟩

/-- **No binding runs over a line feed that parts two texts.** -/
theorem Formed.within_front {b : Binding} (hb : b.Formed) {front behind rest : Text}
    (hparted : Parted front behind) (h : b.chars ++ rest = front ++ '\n' :: behind) :
    ∃ left, front = b.chars ++ left := by
  rw [chars_append] at h
  -- The parts are taken off one by one, and none of them can hold the line feed.
  have hfeed {part front rest : Text} (hpart : part = front ++ '\n' :: rest) : '\n' ∈ part :=
    hpart ▸ List.mem_append_right _ List.mem_cons_self
  obtain ⟨atLead, rfl, hlead⟩ := exists_of_append_eq_feed h fun _ hword =>
    absurd (hfeed hword) (by decide)
  obtain ⟨atName, rfl, hname⟩ := exists_of_append_eq_feed hlead fun _ hpart =>
    absurd (blank_of_gap (hpart ▸ hb.lead)).1 (hparted.keyword [] atLead rfl)
  obtain ⟨atSpace, rfl, hspace⟩ := exists_of_append_eq_feed hname fun _ hpart =>
    absurd (hpart ▸ hb.name.2) not_unbroken_feed
  obtain ⟨atSign, rfl, hsign⟩ := exists_of_append_eq_feed hspace fun back hpart hbehind =>
    hparted.next back _ hbehind (blank_of_gap (hpart ▸ hb.space)).2
  obtain ⟨atGap, rfl, hgap⟩ := exists_of_append_eq_feed hsign fun _ hpart =>
    absurd (hfeed hpart) (by decide)
  obtain ⟨atValue, rfl, hvalue⟩ := exists_of_append_eq_feed hgap fun _ hpart =>
    absurd (blank_of_gap (hpart ▸ hb.gap)).1
      (hparted.sign (keyword ++ (b.lead ++ (b.name ++ b.space))) atGap (by simp))
  obtain ⟨left, rfl, -⟩ := exists_of_append_eq_feed hvalue fun _ hpart =>
    absurd (hpart ▸ hb.value.2) not_unbroken_feed
  exact ⟨left, (b.chars_append left).symm⟩

theorem eq_of_widths_eq {b other : Binding} {rest behind : Text}
    (h : b.chars ++ rest = other.chars ++ behind) (hwidths : b.widths = other.widths) :
    b = other := by
  simp only [widths, toLex_inj, Prod.mk.injEq] at hwidths
  obtain ⟨hlead, hname, hspace, hgap, hvalue⟩ := hwidths
  rw [chars_append, chars_append] at h
  obtain ⟨-, h⟩ := List.append_inj h rfl
  obtain ⟨elead, h⟩ := List.append_inj h hlead
  obtain ⟨ename, h⟩ := List.append_inj h hname
  obtain ⟨espace, h⟩ := List.append_inj h hspace
  obtain ⟨-, h⟩ := List.append_inj h rfl
  obtain ⟨egap, h⟩ := List.append_inj h hgap
  obtain ⟨evalue, -⟩ := List.append_inj h hvalue
  cases b
  cases other
  simp_all

/-- **What follows behind a parting line feed does not change the binding at a place before it.** -/
theorem at?_append {front behind : Text} (hparted : Parted front behind) :
    at? (front ++ '\n' :: behind) = at? front := by
  cases hfront : at? front with
  | none =>
    cases hwhole : at? (front ++ '\n' :: behind) with
    | none => rfl
    | some b =>
      obtain ⟨rest, hcut, hformed⟩ := exists_of_at? hwhole
      obtain ⟨left, rfl⟩ := hformed.within_front hparted hcut.symm
      obtain ⟨found, hfound, -⟩ := hformed.exists_at? left
      rw [hfront] at hfound
      cases hfound
  | some b =>
    -- What is found in the whole text stands in the first as well, so neither has longer parts.
    obtain ⟨left, rfl, hformed⟩ := exists_of_at? hfront
    obtain ⟨found, hwhole, hle⟩ := hformed.exists_at? (left ++ '\n' :: behind)
    rw [← List.append_assoc] at hwhole
    obtain ⟨rest, hcut, hformed'⟩ := exists_of_at? hwhole
    obtain ⟨left', hleft⟩ := hformed'.within_front hparted hcut.symm
    obtain ⟨best, hbest, hge⟩ := hformed'.exists_at? left'
    rw [← hleft, hfront] at hbest
    obtain rfl := Option.some.inj hbest
    rw [hwhole, eq_of_widths_eq hleft.symm (le_antisymm hge hle)]

theorem find_append {front behind : Text} (hparted : Parted front behind) :
    find (front ++ '\n' :: behind) = find front ++ find behind := by
  induction front using find_induction with
  | nil => exact find_of_none (at?_append hparted)
  | step c front hnone ih =>
    have hcons : Parted ([c] ++ front) behind := hparted
    have hwhole : at? (c :: (front ++ '\n' :: behind)) = none :=
      (at?_append hparted).trans hnone
    rw [List.cons_append, find_of_none hwhole, ih hcons.of_append,
      find_of_none hnone]
  | found b rest hat _ ih =>
    have hwhole := (at?_append hparted).trans hat
    rw [List.append_assoc] at hwhole ⊢
    rw [find_of_at? hwhole, ih hparted.of_append, find_of_at? hat, List.cons_append]

end Binding

/-- **Names are bound line by line where no binding runs over a line feed.**  If the text before a
line feed ends neither with the keyword nor with an equals sign, and the text behind it does not
begin with an equals sign, white space left aside, both together bind the names of the first and
then those of the second. -/
theorem bound_names_line_by_line {front behind : Text}
    (hkeyword : ¬ Binding.keyword <:+ trimEnd front) (hsign : ¬ ['='] <:+ trimEnd front)
    (hnext : ¬ ['='] <+: trimStart behind) :
    boundNames (front ++ '\n' :: behind) = boundNames front ++ boundNames behind := by
  have hparted := Binding.parted_of_trimmed hkeyword hsign hnext
  rw [boundNames, Binding.find_append hparted, List.map_append]
  rfl

/-- With an equals sign in a name, the keyword in another, and a break of two characters where
the texts meet. -/
theorem bound_names_line_by_line_crlf :
    ¬ Binding.keyword <:+ trimEnd "let a = b = c \nlet let x = y\r".toList ∧
    ¬ ['='] <:+ trimEnd "let a = b = c \nlet let x = y\r".toList ∧
    ¬ ['='] <+: trimStart " \toutlet d\t=  e".toList ∧
    boundNames ("let a = b = c \nlet let x = y\r".toList ++ '\n' :: " \toutlet d\t=  e".toList) =
      boundNames "let a = b = c \nlet let x = y\r".toList ++
        boundNames " \toutlet d\t=  e".toList := by
  have hkeyword : ¬ Binding.keyword <:+ trimEnd "let a = b = c \nlet let x = y\r".toList := by
    decide +kernel
  have hsign : ¬ ['='] <:+ trimEnd "let a = b = c \nlet let x = y\r".toList := by decide +kernel
  have hnext : ¬ ['='] <+: trimStart " \toutlet d\t=  e".toList := by decide +kernel
  exact ⟨hkeyword, hsign, hnext, bound_names_line_by_line hkeyword hsign hnext⟩

/-- A binding that has no value yet takes the next one for it. -/
example : boundNames "let a =\nlet b = c".toList = ["a".toList] := by decide +kernel

end DawnServer
