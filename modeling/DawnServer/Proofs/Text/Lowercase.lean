import DawnServer.Proofs.Text.Trimming
import DawnServer.Text.Case

/-!
# Words of small ASCII letters in lower case

Which texts full lower-casing makes a given word of small ASCII letters.  Characters beyond ASCII
have lower-case forms that depend on what stands around them, or that are longer than one
character, and the Kelvin sign becomes a `k`; but each such form holds a character that is no
small ASCII letter, or is that `k` (`exists_mem_lowerForm`, read off the table of forms).  So a
word without a `k` is the lower-case form of its ASCII spellings and of no other text
(`lower_eq_iff`).  White space is no part of a spelling, so trimming leaves it (`spells_iff`).
-/

namespace DawnServer.Text

namespace CodeTable

variable {α : Type} {table : CodeTable α}

theorem exists_run_of_find? {n first : Nat} {value : α} (h : table.find? n = some (first, value)) :
    ∃ last, (first, last, value) ∈ table.runs ∧ first ≤ n ∧ n ≤ last := by
  unfold find? at h
  split at h
  · next first' last value' hrun =>
    split at h
    · next hn =>
      cases h
      exact ⟨last, Array.mem_of_getElem? hrun, hn⟩
    · cases h
  · cases h

theorem all_runs_read {value? : Text → Option α} {check : Nat × Nat × α → Bool} (chars : Text)
    (h : ((chars.splitOnP isBlank).filterMap (readRun? value?)).all check = true) :
    (read value? (String.ofList chars)).runs.all check = true := by
  rw [read, String.toList_ofList, List.all_toArray]
  exact h

end CodeTable

def isPlainLetter (c : Char) : Bool := c.isLower && c != 'k'

theorem toNat_of_isPlainLetter {c : Char} (h : isPlainLetter c = true) :
    97 ≤ c.toNat ∧ c.toNat ≤ 122 := by
  obtain ⟨hlow, -⟩ := Bool.and_eq_true_iff.1 h
  obtain ⟨hfirst, hlast⟩ := Bool.and_eq_true_iff.1 hlow
  exact ⟨of_decide_eq_true hfirst, of_decide_eq_true hlast⟩

theorem isPlainLetter_eq_false {c : Char} (h : 0x80 ≤ c.toNat) : isPlainLetter c = false := by
  rw [Bool.eq_false_iff]
  intro hplain
  have hbounds := toNat_of_isPlainLetter hplain
  omega

theorem isPlainLetter_ofNat {n : Nat} (h : 0x80 ≤ n) : isPlainLetter (Char.ofNat n) = false := by
  by_cases hvalid : n.isValidChar
  · have hcode : (Char.ofNat n).toNat = n := by
      rw [Char.ofNat, dif_pos hvalid]
      rfl
    exact isPlainLetter_eq_false (by rwa [hcode])
  · -- A number that is no code point stands for the character 0.
    rw [Char.ofNat, dif_neg hvalid]
    decide

theorem toLower_eq_self {c : Char} (h : c.toNat < 65 ∨ 90 < c.toNat) : c.toLower = c := by
  have hcapital : ¬ (c.val ≥ 'A'.val ∧ c.val ≤ 'Z'.val) := by
    rintro ⟨hfirst, hlast⟩
    have hle : 65 ≤ c.toNat ∧ c.toNat ≤ 90 := ⟨hfirst, hlast⟩
    omega
  exact dif_neg hcapital

/-! ## The forms of characters beyond ASCII -/

/-- Whether a run stands within ASCII, or what its code points become begins with a character
beyond ASCII or is the `k` of a single code point. -/
def standsApart : Nat × Nat × Image → Bool
  | (_, last, ⟨[], _⟩) => last < 0x80
  | (first, last, ⟨code :: _, _⟩) =>
    last < 0x80 || 0x80 ≤ code || (code == 'k'.toNat && first == last)

set_option maxRecDepth 20000 in
theorem lowerForms_standsApart : lowerForms.runs.all standsApart = true :=
  CodeTable.all_runs_read _ (by decide +kernel)

theorem exists_mem_image? {c : Char} {form : Text} (hc : 0x80 ≤ c.toNat)
    (h : lowerForms.image? c = some form) : ∃ d ∈ form, isPlainLetter d = false := by
  rw [CodeTable.image?] at h
  cases hfind : lowerForms.find? c.toNat with
  | none => simp [hfind] at h
  | some found =>
    obtain ⟨first, codes, step⟩ := found
    obtain ⟨last, hrun, hfirst, hlast⟩ := CodeTable.exists_run_of_find? hfind
    have hcheck : standsApart (first, last, ⟨codes, step⟩) = true :=
      Array.all_eq_true_iff_forall_mem.1 lowerForms_standsApart _ hrun
    rw [hfind] at h
    simp only [Option.ite_none_right_eq_some, Option.some.injEq] at h
    obtain ⟨-, rfl⟩ := h
    cases codes with
    | nil =>
      have hascii : last < 0x80 := of_decide_eq_true hcheck
      omega
    | cons code codes =>
      refine ⟨Char.ofNat (code + (c.toNat - first)), List.mem_cons_self, ?_⟩
      simp only [standsApart, Bool.or_eq_true, Bool.and_eq_true, decide_eq_true_eq,
        beq_iff_eq] at hcheck
      rcases hcheck with (hascii | hcode) | ⟨rfl, rfl⟩
      · omega
      · exact isPlainLetter_ofNat (by omega)
      · -- The run is the character itself, which becomes a `k`.
        have hoffset : c.toNat - first = 0 := by omega
        rw [hoffset]
        decide

/-- **The lower-case form of a character beyond ASCII is told from any word of plain letters.** -/
theorem exists_mem_lowerForm {c : Char} (h : 0x80 ≤ c.toNat) :
    ∃ d ∈ lowerForm c, isPlainLetter d = false := by
  rw [lowerForm, if_neg (by omega)]
  cases hform : lowerForms.image? c with
  | none => exact ⟨c, List.mem_singleton_self c, isPlainLetter_eq_false h⟩
  | some form => exact exists_mem_image? h hform

/-! ## Lower-casing -/

/-- What a character becomes in its context: within ASCII its own small letter, and beyond ASCII
a form that no word of plain letters holds. -/
theorem exists_lowerAfter_cons (before : Text) (c : Char) (text : Text) : ∃ form,
    lowerAfter before (c :: text) = form ++ lowerAfter (c :: before) text ∧
      (c.toNat < 0x80 → form = [c.toLower]) ∧
      (0x80 ≤ c.toNat → ∃ d ∈ form, isPlainLetter d = false) := by
  refine ⟨_, rfl, fun hascii => ?_, fun hbeyond => ?_⟩
  · have hsigma : c ≠ 'Σ' := by
      rintro rfl
      exact absurd hascii (by decide)
    have hdotted : c ≠ 'İ' := by
      rintro rfl
      exact absurd hascii (by decide)
    rw [if_neg hsigma, if_neg hdotted, lowerForm, if_pos hascii]
  · split
    · split
      · exact ⟨'ς', by simp, by decide⟩
      · exact ⟨'σ', by simp, by decide⟩
    · split
      · exact ⟨'\u0307', by simp, by decide⟩
      · exact exists_mem_lowerForm hbeyond

theorem lowerAfter_eq_iff {word : Text} (h : ∀ c ∈ word, isPlainLetter c = true)
    (before text : Text) : lowerAfter before text = word ↔ asciiLower text = word := by
  induction text generalizing before word with
  | nil => rfl
  | cons c text ih =>
    obtain ⟨form, hcons, hascii, hbeyond⟩ := exists_lowerAfter_cons before c text
    have hlower : asciiLower (c :: text) = c.toLower :: asciiLower text := rfl
    rw [hcons, hlower]
    rcases Nat.lt_or_ge c.toNat 0x80 with hc | hc
    · rw [hascii hc, List.singleton_append]
      cases word with
      | nil => simp
      | cons d word =>
        obtain ⟨-, hword⟩ := List.forall_mem_cons.1 h
        rw [List.cons.injEq, List.cons.injEq, ih hword]
    · -- Neither side is the word: it holds no character beyond ASCII and none of the form.
      constructor
      · rintro rfl
        obtain ⟨d, hd, hplain⟩ := hbeyond hc
        rw [h d (List.mem_append_left _ hd)] at hplain
        cases hplain
      · rintro rfl
        have hbounds := toNat_of_isPlainLetter (h c.toLower List.mem_cons_self)
        rw [toLower_eq_self (by omega)] at hbounds
        omega

/-- **A text becomes a word of plain letters exactly if it is that word up to the case of ASCII
letters.** -/
theorem lower_eq_iff {word : Text} (h : ∀ c ∈ word, isPlainLetter c = true) (text : Text) :
    lower text = word ↔ asciiLower text = word := lowerAfter_eq_iff h [] text

/-! ## Spellings -/

/-- Whether a text is a word up to white space around it and the case of its ASCII letters. -/
def Spells (text word : Text) : Prop :=
  ∃ front body back, text = front ++ body ++ back ∧ (∀ c ∈ front, isBlank c = true) ∧
    (∀ c ∈ back, isBlank c = true) ∧ asciiLower body = word

theorem isBlank_eq_false {c : Char} (h : isPlainLetter c.toLower = true) : isBlank c = false := by
  rw [Bool.eq_false_iff]
  intro hblank
  have hcode : c.toNat ≤ 0x20 ∨ 0x85 ≤ c.toNat := by
    simp only [isBlank, Bool.or_eq_true, Bool.and_eq_true, decide_eq_true_eq, beq_iff_eq] at hblank
    omega
  rw [toLower_eq_self (by omega)] at h
  have hbounds := toNat_of_isPlainLetter h
  omega

theorem spells_iff {word : Text} (h : ∀ c ∈ word, isPlainLetter c = true) (text : Text) :
    Spells text word ↔ asciiLower (trim text) = word := by
  constructor
  · rintro ⟨front, body, back, rfl, hfront, hback, rfl⟩
    have hbody : ∀ c ∈ body, isBlank c = false := fun c hc =>
      isBlank_eq_false (h c.toLower (List.mem_map_of_mem hc))
    rw [trim_append_blank _ hback, trim_blank_append hfront, (trimmed_of_solid hbody).trim_eq]
  · intro htrim
    obtain ⟨front, back, htext, hfront, hback⟩ := exists_trim text
    exact ⟨front, trim text, back, htext, hfront, hback, htrim⟩

end DawnServer.Text
