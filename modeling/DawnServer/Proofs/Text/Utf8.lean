import DawnServer.Text.Utf8
import Mathlib.Tactic.SplitIfs

/-!
# Texts as bytes and back

Reading UTF-8 accepts exactly what writing produces (`decode?_eq_some`).  The first byte of a
character tells how many bytes follow it and the range of the second one (`lead_eq`); the ranges
leave each code point one form.
-/

namespace DawnServer.Utf8

/-- The least second byte behind a first one: a shorter form would do for less. -/
def leastNext (b : Nat) : Nat := if b = 0xE0 then 0xA0 else if b = 0xF0 then 0x90 else 0x80

/-- The greatest second byte behind a first one: surrogates and what lies beyond the last code
point have no form. -/
def greatestNext (b : Nat) : Nat := if b = 0xED then 0x9F else if b = 0xF4 then 0x8F else 0xBF

def begun (b : Nat) : Pending :=
  if b < 0xE0 then ⟨b - 0xC0, 1, leastNext b, greatestNext b⟩
  else if b < 0xF0 then ⟨b - 0xE0, 2, leastNext b, greatestNext b⟩
  else ⟨b - 0xF0, 3, leastNext b, greatestNext b⟩

theorem lead_eq (b : Nat) : lead b =
    if b < 0x80 then .single (Char.ofNat b)
    else if 0xC2 ≤ b ∧ b < 0xF5 then .begins (begun b)
    else .invalid := by
  fun_cases lead b
  -- A first byte with a range of its own is a number; the others go by intervals.
  case case4 | case5 | case7 | case9 =>
    subst_vars
    rfl
  all_goals simp (disch := omega) only [if_pos, if_neg, begun, leastNext, greatestNext]

theorem low_begun (b : Nat) : (begun b).low = leastNext b := by
  unfold begun
  split_ifs <;> rfl

theorem high_begun (b : Nat) : (begun b).high = greatestNext b := by
  unfold begun
  split_ifs <;> rfl

theorem next_iff {b next : Nat} : (leastNext b ≤ next ∧ next ≤ greatestNext b) ↔
    (0x80 ≤ next ∧ next ≤ 0xBF) ∧ (b = 0xE0 → 0xA0 ≤ next) ∧ (b = 0xED → next ≤ 0x9F) ∧
      (b = 0xF0 → 0x90 ≤ next) ∧ (b = 0xF4 → next ≤ 0x8F) := by
  unfold leastNext greatestNext
  split_ifs <;> omega

/-! ## The forms of a character -/

def Continues (b : UInt8) : Prop := 0x80 ≤ b.toNat ∧ b.toNat ≤ 0xBF

variable {bits low high : Nat} {b b₁ b₂ b₃ : UInt8}

theorem scan_last (h : low ≤ b.toNat ∧ b.toNat ≤ high) (bytes : List UInt8) :
    scan (some ⟨bits, 1, low, high⟩) (b :: bytes) =
      some (Char.ofNat (bits * 0x40 + (b.toNat - 0x80))) :: scan none bytes := by
  rw [scan, if_pos h]
  exact if_pos (Nat.le_refl 1)

theorem scan_more {missing : Nat} (h : low ≤ b.toNat ∧ b.toNat ≤ high) (bytes : List UInt8) :
    scan (some ⟨bits, missing + 2, low, high⟩) (b :: bytes) =
      scan (some ⟨bits * 0x40 + (b.toNat - 0x80), missing + 1, 0x80, 0xBF⟩) bytes := by
  rw [scan, if_pos h]
  exact if_neg (show ¬ missing + 2 ≤ 1 by omega)

theorem scan_one (h : b.toNat < 0x80) (bytes : List UInt8) :
    scan none (b :: bytes) = some (Char.ofNat b.toNat) :: scan none bytes := by
  rw [scan, lead_eq, if_pos h]

theorem scan_begun (h : 0xC2 ≤ b.toNat ∧ b.toNat < 0xF5) (bytes : List UInt8) :
    scan none (b :: bytes) = scan (some (begun b.toNat)) bytes := by
  rw [scan, lead_eq, if_neg (by omega), if_pos h]

theorem scan_two (h : 0xC2 ≤ b.toNat ∧ b.toNat < 0xE0) (h₁ : Continues b₁)
    (bytes : List UInt8) : scan none (b :: b₁ :: bytes) =
      some (Char.ofNat ((b.toNat - 0xC0) * 0x40 + (b₁.toNat - 0x80))) :: scan none bytes := by
  have hrange : leastNext b.toNat ≤ b₁.toNat ∧ b₁.toNat ≤ greatestNext b.toNat :=
    next_iff.2 ⟨h₁, by omega⟩
  rw [scan_begun (by omega), begun, if_pos h.2, scan_last hrange]

theorem scan_three (h : 0xE0 ≤ b.toNat ∧ b.toNat < 0xF0)
    (h₁ : leastNext b.toNat ≤ b₁.toNat ∧ b₁.toNat ≤ greatestNext b.toNat) (h₂ : Continues b₂)
    (bytes : List UInt8) : scan none (b :: b₁ :: b₂ :: bytes) =
      some (Char.ofNat (((b.toNat - 0xE0) * 0x40 + (b₁.toNat - 0x80)) * 0x40 +
        (b₂.toNat - 0x80))) :: scan none bytes := by
  rw [scan_begun (by omega), begun, if_neg (by omega), if_pos h.2, scan_more h₁, scan_last h₂]

theorem scan_four (h : 0xF0 ≤ b.toNat ∧ b.toNat < 0xF5)
    (h₁ : leastNext b.toNat ≤ b₁.toNat ∧ b₁.toNat ≤ greatestNext b.toNat) (h₂ : Continues b₂)
    (h₃ : Continues b₃) (bytes : List UInt8) : scan none (b :: b₁ :: b₂ :: b₃ :: bytes) =
      some (Char.ofNat ((((b.toNat - 0xF0) * 0x40 + (b₁.toNat - 0x80)) * 0x40 +
        (b₂.toNat - 0x80)) * 0x40 + (b₃.toNat - 0x80))) :: scan none bytes := by
  rw [scan_begun (by omega), begun, if_neg (by omega), if_neg (by omega), scan_more h₁,
    scan_more h₂, scan_last h₃]

theorem toNat_toUInt8 {n : Nat} (h : n < 0x100) : n.toUInt8.toNat = n := by
  rw [Nat.toUInt8, UInt8.toNat_ofNat']
  omega

theorem toUInt8_eq {n : Nat} {b : UInt8} (h : n = b.toNat) : n.toUInt8 = b := by
  rw [h]
  exact UInt8.ofNat_toNat

theorem toNat_ofNat {n : Nat} (h : n < 0xD800 ∨ 0xDFFF < n ∧ n < 0x110000) :
    (Char.ofNat n).toNat = n := by
  rw [Char.ofNat, dif_pos h]
  rfl

/-! ## Writing and reading -/

/-- **A character that is written is read**, whatever stands behind it. -/
theorem scan_encodeChar (c : Char) (bytes : List UInt8) :
    scan none (encodeChar c ++ bytes) = some c :: scan none bytes := by
  have hvalid : c.toNat < 0xD800 ∨ 0xDFFF < c.toNat ∧ c.toNat < 0x110000 := c.valid
  have hchar {n : Nat} (h : n = c.toNat) : Char.ofNat n = c := h ▸ Char.ofNat_toNat c
  unfold encodeChar
  dsimp only
  split_ifs with hone htwo hthree
  · have hfirst := toNat_toUInt8 (n := c.toNat) (by omega)
    rw [List.singleton_append, scan_one (by omega), hchar hfirst]
  · have hfirst := toNat_toUInt8 (n := 0xC0 + c.toNat / 0x40) (by omega)
    have hsecond := toNat_toUInt8 (n := 0x80 + c.toNat % 0x40) (by omega)
    rw [List.cons_append, List.singleton_append, scan_two (by omega) ⟨by omega, by omega⟩]
    rw [hchar (by omega)]
  · have hfirst := toNat_toUInt8 (n := 0xE0 + c.toNat / 0x1000) (by omega)
    have hsecond := toNat_toUInt8 (n := 0x80 + c.toNat / 0x40 % 0x40) (by omega)
    have hthird := toNat_toUInt8 (n := 0x80 + c.toNat % 0x40) (by omega)
    rw [List.cons_append, List.cons_append, List.singleton_append, scan_three (by omega) ?_
      ⟨by omega, by omega⟩, hchar (by omega)]
    exact next_iff.2 (by omega)
  · have hfirst := toNat_toUInt8 (n := 0xF0 + c.toNat / 0x40000) (by omega)
    have hsecond := toNat_toUInt8 (n := 0x80 + c.toNat / 0x1000 % 0x40) (by omega)
    have hthird := toNat_toUInt8 (n := 0x80 + c.toNat / 0x40 % 0x40) (by omega)
    have hfourth := toNat_toUInt8 (n := 0x80 + c.toNat % 0x40) (by omega)
    rw [List.cons_append, List.cons_append, List.cons_append, List.singleton_append,
      scan_four (by omega) ?_ ⟨by omega, by omega⟩ ⟨by omega, by omega⟩, hchar (by omega)]
    exact next_iff.2 (by omega)

theorem mapM_cons_some {c : Char} {found : List (Option Char)} :
    (some c :: found).mapM id = (found.mapM id).map (c :: ·) := by
  rw [List.mapM_cons]
  cases found.mapM id <;> rfl

theorem mapM_cons_none (found : List (Option Char)) : (none :: found).mapM id = none := rfl

theorem decode?_encode (text : Text) : decode? (encode text) = some text := by
  induction text with
  | nil => rfl
  | cons c text ih =>
    rw [decode?, encode, List.flatMap_cons, scan_encodeChar, mapM_cons_some]
    rw [decode?, encode] at ih
    rw [ih]
    rfl

theorem exists_next {p : Pending} {bytes : List UInt8} {text : Text}
    (h : (scan (some p) bytes).mapM id = some text) :
    ∃ b rest, bytes = b :: rest ∧ p.low ≤ b.toNat ∧ b.toNat ≤ p.high := by
  cases bytes with
  | nil => cases h
  | cons b rest =>
    by_cases hrange : p.low ≤ b.toNat ∧ b.toNat ≤ p.high
    · exact ⟨b, rest, rfl, hrange⟩
    · rw [scan, if_neg hrange, mapM_cons_none] at h
      cases h

theorem exists_of_mapM_cons {c : Char} {found : List (Option Char)} {text : Text}
    (h : (some c :: found).mapM id = some text) : ∃ rest, text = c :: rest ∧
      found.mapM id = some rest := by
  rw [mapM_cons_some] at h
  obtain ⟨rest, hrest, rfl⟩ := Option.map_eq_some_iff.1 h
  exact ⟨rest, rfl, hrest⟩

theorem encodeChar_ofNat {n : Nat} (h : n < 0xD800 ∨ 0xDFFF < n ∧ n < 0x110000) :
    encodeChar (Char.ofNat n) =
      if n < 0x80 then [n.toUInt8]
      else if n < 0x800 then [(0xC0 + n / 0x40).toUInt8, (0x80 + n % 0x40).toUInt8]
      else if n < 0x10000 then
        [(0xE0 + n / 0x1000).toUInt8, (0x80 + n / 0x40 % 0x40).toUInt8, (0x80 + n % 0x40).toUInt8]
      else
        [(0xF0 + n / 0x40000).toUInt8, (0x80 + n / 0x1000 % 0x40).toUInt8,
          (0x80 + n / 0x40 % 0x40).toUInt8, (0x80 + n % 0x40).toUInt8] := by
  rw [encodeChar, toNat_ofNat h]

theorem encodeChar_one (h : b.toNat < 0x80) : encodeChar (Char.ofNat b.toNat) = [b] := by
  rw [encodeChar_ofNat (by omega), if_pos h, toUInt8_eq rfl]

theorem encodeChar_two (h : 0xC2 ≤ b.toNat ∧ b.toNat < 0xE0) (h₁ : Continues b₁) :
    encodeChar (Char.ofNat ((b.toNat - 0xC0) * 0x40 + (b₁.toNat - 0x80))) = [b, b₁] := by
  obtain ⟨hleast, hgreatest⟩ := h₁
  generalize hn : (b.toNat - 0xC0) * 0x40 + (b₁.toNat - 0x80) = n
  rw [encodeChar_ofNat (by omega), if_neg (by omega), if_pos (by omega),
    toUInt8_eq (b := b) (by omega), toUInt8_eq (b := b₁) (by omega)]

theorem encodeChar_three (h : 0xE0 ≤ b.toNat ∧ b.toNat < 0xF0)
    (h₁ : leastNext b.toNat ≤ b₁.toNat ∧ b₁.toNat ≤ greatestNext b.toNat) (h₂ : Continues b₂) :
    encodeChar (Char.ofNat (((b.toNat - 0xE0) * 0x40 + (b₁.toNat - 0x80)) * 0x40 +
      (b₂.toNat - 0x80))) = [b, b₁, b₂] := by
  obtain ⟨hleast, hgreatest⟩ := h₂
  have hnext := next_iff.1 h₁
  generalize hn : ((b.toNat - 0xE0) * 0x40 + (b₁.toNat - 0x80)) * 0x40 + (b₂.toNat - 0x80) = n
  rw [encodeChar_ofNat (by omega), if_neg (by omega), if_neg (by omega), if_pos (by omega),
    toUInt8_eq (b := b) (by omega), toUInt8_eq (b := b₁) (by omega),
    toUInt8_eq (b := b₂) (by omega)]

theorem encodeChar_four (h : 0xF0 ≤ b.toNat ∧ b.toNat < 0xF5)
    (h₁ : leastNext b.toNat ≤ b₁.toNat ∧ b₁.toNat ≤ greatestNext b.toNat) (h₂ : Continues b₂)
    (h₃ : Continues b₃) :
    encodeChar (Char.ofNat ((((b.toNat - 0xF0) * 0x40 + (b₁.toNat - 0x80)) * 0x40 +
      (b₂.toNat - 0x80)) * 0x40 + (b₃.toNat - 0x80))) = [b, b₁, b₂, b₃] := by
  obtain ⟨hleast, hgreatest⟩ := h₂
  obtain ⟨hleast', hgreatest'⟩ := h₃
  have hnext := next_iff.1 h₁
  generalize hn : (((b.toNat - 0xF0) * 0x40 + (b₁.toNat - 0x80)) * 0x40 +
    (b₂.toNat - 0x80)) * 0x40 + (b₃.toNat - 0x80) = n
  rw [encodeChar_ofNat (by omega), if_neg (by omega), if_neg (by omega), if_neg (by omega),
    toUInt8_eq (b := b) (by omega), toUInt8_eq (b := b₁) (by omega),
    toUInt8_eq (b := b₂) (by omega), toUInt8_eq (b := b₃) (by omega)]

/-- **What is read of well-formed bytes begins with a character that was written.** -/
theorem exists_of_scan_cons {b : UInt8} {bytes : List UInt8} {text : Text}
    (h : (scan none (b :: bytes)).mapM id = some text) : ∃ c rest text',
      b :: bytes = encodeChar c ++ rest ∧ text = c :: text' ∧
        (scan none rest).mapM id = some text' := by
  by_cases hone : b.toNat < 0x80
  · rw [scan_one hone] at h
    obtain ⟨text', rfl, hrest⟩ := exists_of_mapM_cons h
    refine ⟨_, bytes, text', ?_, rfl, hrest⟩
    rw [encodeChar_one hone, List.singleton_append]
  by_cases hbegun : 0xC2 ≤ b.toNat ∧ b.toNat < 0xF5
  case neg =>
    rw [scan, lead_eq, if_neg hone, if_neg hbegun] at h
    cases h
  have hfollowed := h
  rw [scan_begun hbegun] at hfollowed
  obtain ⟨b₁, bytes, rfl, h₁⟩ := exists_next hfollowed
  rw [low_begun, high_begun] at h₁
  -- The first byte tells how many more there are.
  by_cases htwo : b.toNat < 0xE0
  · rw [scan_two ⟨hbegun.1, htwo⟩ (next_iff.1 h₁).1] at h
    obtain ⟨text', rfl, hrest⟩ := exists_of_mapM_cons h
    refine ⟨_, bytes, text', ?_, rfl, hrest⟩
    rw [encodeChar_two ⟨hbegun.1, htwo⟩ (next_iff.1 h₁).1]
    rfl
  by_cases hthree : b.toNat < 0xF0
  · have hb : 0xE0 ≤ b.toNat ∧ b.toNat < 0xF0 := ⟨Nat.le_of_not_lt htwo, hthree⟩
    rw [begun, if_neg htwo, if_pos hthree, scan_more h₁] at hfollowed
    obtain ⟨b₂, bytes, rfl, h₂⟩ := exists_next hfollowed
    rw [scan_three hb h₁ h₂] at h
    obtain ⟨text', rfl, hrest⟩ := exists_of_mapM_cons h
    refine ⟨_, bytes, text', ?_, rfl, hrest⟩
    rw [encodeChar_three hb h₁ h₂]
    rfl
  · have hb : 0xF0 ≤ b.toNat ∧ b.toNat < 0xF5 := ⟨Nat.le_of_not_lt hthree, hbegun.2⟩
    rw [begun, if_neg htwo, if_neg hthree, scan_more h₁] at hfollowed
    obtain ⟨b₂, bytes, rfl, h₂⟩ := exists_next hfollowed
    rw [scan_more h₂] at hfollowed
    obtain ⟨b₃, bytes, rfl, h₃⟩ := exists_next hfollowed
    rw [scan_four hb h₁ h₂ h₃] at h
    obtain ⟨text', rfl, hrest⟩ := exists_of_mapM_cons h
    refine ⟨_, bytes, text', ?_, rfl, hrest⟩
    rw [encodeChar_four hb h₁ h₂ h₃]
    rfl

theorem encodeChar_ne_nil (c : Char) : encodeChar c ≠ [] := by
  unfold encodeChar
  dsimp only
  split_ifs <;> exact List.cons_ne_nil _ _

theorem eq_encode_of_decode? {bytes : List UInt8} {text : Text} (h : decode? bytes = some text) :
    bytes = encode text := by
  -- Each character takes at least one byte, so fewer are left behind it.
  induction hlength : bytes.length using Nat.strongRecOn generalizing bytes text with
  | ind length ih =>
    cases bytes with
    | nil =>
      cases h
      rfl
    | cons b bytes =>
      obtain ⟨c, rest, text', hbytes, rfl, hrest⟩ := exists_of_scan_cons h
      have hshorter : rest.length < length := by
        have hc := List.length_pos_iff.2 (encodeChar_ne_nil c)
        rw [← hlength, hbytes, List.length_append]
        omega
      rw [hbytes, ih rest.length hshorter hrest rfl]
      rfl

/-- **Reading accepts exactly what writing produces.** -/
theorem decode?_eq_some {bytes : List UInt8} {text : Text} :
    decode? bytes = some text ↔ bytes = encode text :=
  ⟨eq_encode_of_decode?, fun h => h ▸ decode?_encode text⟩

end DawnServer.Utf8
