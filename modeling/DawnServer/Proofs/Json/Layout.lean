import DawnServer.Json.Parser
import DawnServer.Json.Printer
import Mathlib.Data.List.DropRight

/-!
# Reading what was laid out

The reader gives back every value without numbers from its layout over lines
(`Json.parse?_pretty`).  The argument goes by the value: each character of a string is read
back from its escaped form, and the items and members of a value are read back one after the
other, since the layout puts nothing but white space between the marks.
-/

namespace DawnServer.Json

inductive Numberless : Json → Prop
  | null : Numberless .null
  | bool (b : Bool) : Numberless (.bool b)
  | str (text : Text) : Numberless (.str text)
  | arr {items : List Json} (h : ∀ item ∈ items, Numberless item) : Numberless (.arr items)
  | obj {members : List (Text × Json)} (h : ∀ member ∈ members, Numberless member.2) :
      Numberless (.obj members)

/-! ## Strings -/

theorem hexQuad?_control {n : Nat} (h : n < 0x20) :
    hexQuad? '0' '0' (Text.hexDigit (n / 16)) (Text.hexDigit (n % 16)) = some n := by
  have hall : ∀ n < 0x20,
      hexQuad? '0' '0' (Text.hexDigit (n / 16)) (Text.hexDigit (n % 16)) = some n := by decide
  exact hall n h

theorem string?_cons {c : Char} (hquote : c ≠ '"') (hslash : c ≠ '\\') (hcontrol : ¬ c.toNat < 0x20)
    (text : Text) : string? (c :: text) = pushChar c (string? text) := by
  rw [string?]
  · rw [if_neg hcontrol]
  all_goals simp_all

theorem string?_escapeChar (c : Char) (text : Text) :
    string? (escapeChar c ++ text) = pushChar c (string? text) := by
  by_cases hnamed : c ∈ ['"', '\\', '\x08', '\t', '\n', '\x0c', '\r']
  · simp only [List.mem_cons, List.not_mem_nil, or_false] at hnamed
    rcases hnamed with rfl | rfl | rfl | rfl | rfl | rfl | rfl <;> rfl
  · simp only [List.mem_cons, List.not_mem_nil, or_false, not_or] at hnamed
    obtain ⟨hquote, hslash, hb, ht, hn, hf, hr⟩ := hnamed
    simp only [escapeChar, if_neg hquote, if_neg hslash, if_neg hb, if_neg ht, if_neg hn,
      if_neg hf, if_neg hr]
    split
    · next hcontrol =>
      have hlow : c.toNat < 0xD800 := by omega
      show string? ('\\' :: 'u' :: '0' :: '0' :: _ :: _ :: text) = _
      rw [string?, hexQuad?_control hcontrol]
      simp only [hlow, true_or, if_true, Char.ofNat_toNat]
    · next hcontrol => exact string?_cons hquote hslash hcontrol text

theorem string?_quoted (text rest : Text) :
    string? (text.flatMap escapeChar ++ '"' :: rest) = some (text, rest) := by
  induction text with
  | nil => rfl
  | cons c text ih =>
    rw [List.flatMap_cons, List.append_assoc, string?_escapeChar, ih]
    rfl

/-! ## White space between the marks -/

theorem skipSpace_cons {c : Char} (h : c ≠ ' ' ∧ c ≠ '\n' ∧ c ≠ '\r' ∧ c ≠ '\t') (text : Text) :
    skipSpace (c :: text) = c :: text := by
  apply List.dropWhile_cons_of_neg
  simp [h]

theorem skipSpace_indent (depth : Nat) (text : Text) :
    skipSpace (indent depth ++ text) = skipSpace text := by
  have hspaces (n : Nat) : skipSpace (List.replicate n ' ' ++ text) = skipSpace text := by
    induction n with
    | zero => rfl
    | succ n ih => exact ih
  exact hspaces (2 * depth)

theorem skipSpace_skipSpace (text : Text) : skipSpace (skipSpace text) = skipSpace text :=
  List.dropWhile_idempotent _ text

theorem value?_skipSpace (fuel : Nat) (text : Text) :
    value? fuel (skipSpace text) = value? fuel text := by
  cases fuel with
  | zero => rfl
  | succ fuel => rw [value?, value?, skipSpace_skipSpace]

theorem items?_skipSpace (fuel : Nat) (text : Text) :
    items? fuel (skipSpace text) = items? fuel text := by
  cases fuel with
  | zero => rfl
  | succ fuel => rw [items?, items?, value?_skipSpace]

theorem members?_skipSpace (fuel : Nat) (text : Text) :
    members? fuel (skipSpace text) = members? fuel text := by
  cases fuel with
  | zero => rfl
  | succ fuel => rw [members?, members?, skipSpace_skipSpace]

/-! ## Values -/

/-- A value is read back from its layout at every depth, whatever follows it, with more fuel
than the layout has characters. -/
def ReadsBack (value : Json) : Prop :=
  ∀ depth fuel rest, (prettyAt depth value).length < fuel →
    value? fuel (prettyAt depth value ++ rest) = some (value, rest)

theorem length_indent (depth : Nat) : (indent depth).length = 2 * depth + 1 := by
  simp [indent]

theorem prettyItems_cons (depth : Nat) (item next : Json) (items : List Json) :
    prettyItems depth (item :: next :: items) =
      indent depth ++ (prettyAt depth item ++ ',' :: prettyItems depth (next :: items)) := by
  rw [prettyItems, List.append_assoc]
  simp

theorem prettyMembers_cons (depth : Nat) (name : Text) (value : Json) (next : Text × Json)
    (members : List (Text × Json)) :
    prettyMembers depth ((name, value) :: next :: members) =
      indent depth ++ (quote name ++ ':' :: ' ' :: (prettyAt depth value ++
        ',' :: prettyMembers depth (next :: members))) := by
  rw [prettyMembers, List.append_assoc]
  simp

theorem items?_prettyItems {items : List Json} (hne : items ≠ [])
    (h : ∀ item ∈ items, ReadsBack item) {depth fuel : Nat}
    (hfuel : (prettyItems depth items).length < fuel) {close rest : Text}
    (hclose : skipSpace close = ']' :: rest) :
    items? fuel (prettyItems depth items ++ close) = some (items, rest) := by
  induction items generalizing fuel with
  | nil => exact absurd rfl hne
  | cons item items ih =>
    obtain ⟨fuel, rfl⟩ := Nat.exists_eq_add_one_of_ne_zero (Nat.ne_zero_of_lt hfuel)
    have hitem (more : Text) (hlength : (prettyAt depth item).length < fuel) :
        value? fuel (prettyAt depth item ++ more) = some (item, more) :=
      h item List.mem_cons_self depth fuel more hlength
    -- Each item costs one unit of fuel, and at least the line break before it.
    cases items with
    | nil =>
      simp only [prettyItems, List.length_append, length_indent] at hfuel
      rw [prettyItems, items?, List.append_assoc, ← value?_skipSpace, skipSpace_indent,
        value?_skipSpace, hitem close (by omega)]
      simp only [hclose]
    | cons next items =>
      simp only [prettyItems_cons, List.length_append, List.length_cons, length_indent] at hfuel
      have hrest : items? fuel (prettyItems depth (next :: items) ++ close) =
          some (next :: items, rest) :=
        ih (by simp) (fun other hother => h other (List.mem_cons_of_mem _ hother)) (by omega)
      rw [prettyItems_cons, items?, List.append_assoc, ← value?_skipSpace, skipSpace_indent,
        value?_skipSpace, List.append_assoc, hitem _ (by omega)]
      simp only [List.cons_append, skipSpace_cons (c := ',') (by decide), hrest, Option.map_some]

theorem members?_prettyMembers {members : List (Text × Json)} (hne : members ≠ [])
    (h : ∀ member ∈ members, ReadsBack member.2) {depth fuel : Nat}
    (hfuel : (prettyMembers depth members).length < fuel) {close rest : Text}
    (hclose : skipSpace close = '\x7d' :: rest) :
    members? fuel (prettyMembers depth members ++ close) = some (members, rest) := by
  have hname (name more : Text) : string? (name.flatMap escapeChar ++ ['"'] ++ more) =
      some (name, more) := by
    rw [List.append_assoc]
    exact string?_quoted name more
  have hspace (fuel : Nat) (text : Text) : value? fuel (' ' :: text) = value? fuel text :=
    (value?_skipSpace fuel (' ' :: text)).symm.trans (value?_skipSpace fuel text)
  induction members generalizing fuel with
  | nil => exact absurd rfl hne
  | cons member members ih =>
    obtain ⟨name, value⟩ := member
    obtain ⟨fuel, rfl⟩ := Nat.exists_eq_add_one_of_ne_zero (Nat.ne_zero_of_lt hfuel)
    have hvalue (more : Text) (hlength : (prettyAt depth value).length < fuel) :
        value? fuel (prettyAt depth value ++ more) = some (value, more) :=
      h (name, value) List.mem_cons_self depth fuel more hlength
    cases members with
    | nil =>
      simp only [prettyMembers, quote, List.length_append, List.length_cons, length_indent]
        at hfuel
      rw [prettyMembers, members?, List.append_assoc, List.append_assoc, skipSpace_indent, quote]
      simp only [List.cons_append, skipSpace_cons (c := '"') (by decide), hname,
        skipSpace_cons (c := ':') (by decide), hspace]
      rw [hvalue close (by omega)]
      simp only [hclose]
    | cons next members =>
      simp only [prettyMembers_cons, quote, List.length_append, List.length_cons, length_indent]
        at hfuel
      have hrest : members? fuel (prettyMembers depth (next :: members) ++ close) =
          some (next :: members, rest) :=
        ih (by simp) (fun other hother => h other (List.mem_cons_of_mem _ hother)) (by omega)
      rw [prettyMembers_cons, members?, List.append_assoc, List.append_assoc, skipSpace_indent,
        quote]
      simp only [List.cons_append, skipSpace_cons (c := '"') (by decide), hname,
        skipSpace_cons (c := ':') (by decide), hspace]
      rw [List.append_assoc, hvalue _ (by omega)]
      simp only [List.cons_append, skipSpace_cons (c := ',') (by decide), hrest, Option.map_some]

theorem Numberless.exists_head {value : Json} (h : Numberless value) (depth : Nat) :
    ∃ c text, prettyAt depth value = c :: text ∧
      (c ≠ ' ' ∧ c ≠ '\n' ∧ c ≠ '\r' ∧ c ≠ '\t') ∧ c ≠ ']' := by
  cases h with
  | null => exact ⟨'n', _, rfl, by decide, by decide⟩
  | bool b =>
    cases b with
    | true => exact ⟨'t', _, rfl, by decide, by decide⟩
    | false => exact ⟨'f', _, rfl, by decide, by decide⟩
  | str text => exact ⟨'"', _, rfl, by decide, by decide⟩
  | @arr items h => cases items <;> exact ⟨'[', _, rfl, by decide, by decide⟩
  | @obj members h => cases members <;> exact ⟨'\x7b', _, rfl, by decide, by decide⟩

theorem skipSpace_prettyItems {item : Json} (h : Numberless item) (depth : Nat)
    (items : List Json) (more : Text) :
    ∃ c text, skipSpace (prettyItems depth (item :: items) ++ more) = c :: text ∧ c ≠ ']' := by
  obtain ⟨c, text, hhead, hspace, hc⟩ := h.exists_head depth
  cases items with
  | nil =>
    refine ⟨c, text ++ more, ?_, hc⟩
    rw [prettyItems, List.append_assoc, skipSpace_indent, hhead, List.cons_append,
      skipSpace_cons hspace]
  | cons next items =>
    refine ⟨c, text ++ ',' :: (prettyItems depth (next :: items) ++ more), ?_, hc⟩
    rw [prettyItems_cons, List.append_assoc, skipSpace_indent, hhead, List.append_assoc,
      List.cons_append, skipSpace_cons hspace, List.cons_append]

theorem skipSpace_prettyMembers (depth : Nat) (member : Text × Json)
    (members : List (Text × Json)) (more : Text) :
    ∃ text, skipSpace (prettyMembers depth (member :: members) ++ more) = '"' :: text := by
  cases members with
  | nil =>
    rw [prettyMembers, List.append_assoc, List.append_assoc, skipSpace_indent, quote]
    exact ⟨_, skipSpace_cons (by decide) _⟩
  | cons next members =>
    rw [prettyMembers_cons, List.append_assoc, skipSpace_indent, quote, List.append_assoc]
    exact ⟨_, skipSpace_cons (by decide) _⟩

theorem readsBack_arr {items : List Json} (hitems : ∀ item ∈ items, Numberless item)
    (hread : ∀ item ∈ items, ReadsBack item) : ReadsBack (.arr items) := by
  intro depth fuel rest hfuel
  obtain ⟨fuel, rfl⟩ := Nat.exists_eq_add_one_of_ne_zero (Nat.ne_zero_of_lt hfuel)
  cases items with
  | nil =>
    rw [value?]
    rfl
  | cons item items =>
    have htext : prettyAt depth (.arr (item :: items)) ++ rest =
        '[' :: (prettyItems (depth + 1) (item :: items) ++ (indent depth ++ ']' :: rest)) := by
      simp [prettyAt]
    have hclose : skipSpace (indent depth ++ ']' :: rest) = ']' :: rest := by
      rw [skipSpace_indent, skipSpace_cons (by decide)]
    have hlength : (prettyItems (depth + 1) (item :: items)).length < fuel := by
      simp only [prettyAt, List.length_cons, List.length_append] at hfuel
      omega
    have hitemsRead := items?_prettyItems (by simp) hread hlength hclose
    -- The first item does not look like the closing bracket.
    obtain ⟨c, text, hskip, hc⟩ := skipSpace_prettyItems (hitems item List.mem_cons_self)
      (depth + 1) items (indent depth ++ ']' :: rest)
    rw [← items?_skipSpace, hskip] at hitemsRead
    rw [value?, htext, skipSpace_cons (by decide)]
    simp only [hskip]
    split
    · next heq =>
      cases heq
      exact absurd rfl hc
    · rw [hitemsRead, Option.map_some]

theorem readsBack_obj {members : List (Text × Json)}
    (hread : ∀ member ∈ members, ReadsBack member.2) : ReadsBack (.obj members) := by
  intro depth fuel rest hfuel
  obtain ⟨fuel, rfl⟩ := Nat.exists_eq_add_one_of_ne_zero (Nat.ne_zero_of_lt hfuel)
  cases members with
  | nil =>
    rw [value?]
    rfl
  | cons member members =>
    have htext : prettyAt depth (.obj (member :: members)) ++ rest =
        '\x7b' :: (prettyMembers (depth + 1) (member :: members) ++
          (indent depth ++ '\x7d' :: rest)) := by
      simp [prettyAt]
    have hclose : skipSpace (indent depth ++ '\x7d' :: rest) = '\x7d' :: rest := by
      rw [skipSpace_indent, skipSpace_cons (by decide)]
    have hlength : (prettyMembers (depth + 1) (member :: members)).length < fuel := by
      simp only [prettyAt, List.length_cons, List.length_append] at hfuel
      omega
    have hmembersRead := members?_prettyMembers (by simp) hread hlength hclose
    obtain ⟨text, hskip⟩ := skipSpace_prettyMembers (depth + 1) member members
      (indent depth ++ '\x7d' :: rest)
    rw [← members?_skipSpace, hskip] at hmembersRead
    rw [value?, htext, skipSpace_cons (by decide)]
    simp only [hskip]
    show (members? fuel ('"' :: text)).map _ = _
    rw [hmembersRead]
    rfl

theorem readsBack_str (text : Text) : ReadsBack (.str text) := by
  intro depth fuel rest hfuel
  obtain ⟨fuel, rfl⟩ := Nat.exists_eq_add_one_of_ne_zero (Nat.ne_zero_of_lt hfuel)
  have hstring : string? (text.flatMap escapeChar ++ ['"'] ++ rest) = some (text, rest) := by
    rw [List.append_assoc]
    exact string?_quoted text rest
  have htext : prettyAt depth (.str text) ++ rest =
      '"' :: (text.flatMap escapeChar ++ ['"'] ++ rest) := rfl
  rw [value?, htext, skipSpace_cons (by decide)]
  show (string? (text.flatMap escapeChar ++ ['"'] ++ rest)).map _ = _
  rw [hstring]
  rfl

/-- **Values are read back from their layout.** -/
theorem Numberless.readsBack {value : Json} (h : Numberless value) : ReadsBack value := by
  induction h with
  | null =>
    intro depth fuel rest hfuel
    obtain ⟨fuel, rfl⟩ := Nat.exists_eq_add_one_of_ne_zero (Nat.ne_zero_of_lt hfuel)
    rw [value?]
    rfl
  | bool b =>
    intro depth fuel rest hfuel
    obtain ⟨fuel, rfl⟩ := Nat.exists_eq_add_one_of_ne_zero (Nat.ne_zero_of_lt hfuel)
    rw [value?]
    cases b <;> rfl
  | str text => exact readsBack_str text
  | arr hitems ih => exact readsBack_arr hitems ih
  | obj hmembers ih => exact readsBack_obj ih

/-- **What was laid out is read as it was**, with any white space after it. -/
theorem parse?_pretty_append {value : Json} (h : Numberless value) {after : Text}
    (hafter : skipSpace after = []) : parse? (value.pretty ++ after) = some value := by
  have hfuel : (prettyAt 0 value).length < (prettyAt 0 value ++ after).length + 1 := by
    rw [List.length_append]
    omega
  rw [parse?, pretty, h.readsBack 0 _ after hfuel]
  simp [hafter]

theorem parse?_pretty {value : Json} (h : Numberless value) : parse? value.pretty = some value := by
  have hread : parse? (value.pretty ++ []) = some value := parse?_pretty_append h rfl
  rwa [List.append_nil] at hread

end DawnServer.Json
