import DawnServer.Script.Delta
import Mathlib.Data.Prod.Lex
import Mathlib.Order.Lattice.Nat

/-!
# Relative tokens read back

Decoding undoes encoding exactly where tokens never go back (`decodeFrom_encodeFrom_eq_iff`).
The bits of a set of modifiers are the places of its members in the legend
(`TokenModifier.testBit_bits`), so the names in the legend tell them apart again.  Tokens can
also be pushed one by one, each relative to the last; every push succeeds, and what is held in
the end is what is encoded at once (`pushed_tokens_read_back`).
-/

namespace DawnServer

def CodedToken.place (token : CodedToken) : ℕ ×ₗ ℕ := toLex (token.line, token.start)

theorem CodedToken.le_place_iff {line start : Nat} {token : CodedToken} :
    toLex (line, start) ≤ token.place ↔
      line < token.line ∨ line = token.line ∧ start ≤ token.start :=
  Prod.Lex.toLex_le_toLex

namespace DeltaToken

theorem lines_relative (line start : Nat) (token : CodedToken) :
    (relative line start token).lines = token.line - line := rfl

theorem columns_relative (line start : Nat) (token : CodedToken) :
    (relative line start token).columns =
      if token.line - line = 0 then token.start - start else token.start := rfl

theorem decodeFrom_relative {line start : Nat} {token : CodedToken}
    (h : toLex (line, start) ≤ token.place) (deltas : List DeltaToken) :
    decodeFrom line start (relative line start token :: deltas) =
      token :: decodeFrom token.line token.start deltas := by
  rw [CodedToken.le_place_iff] at h
  have hline : line + (relative line start token).lines = token.line := by
    rw [lines_relative]
    omega
  have hstart : (if (relative line start token).lines = 0
      then start + (relative line start token).columns
      else (relative line start token).columns) = token.start := by
    rw [lines_relative, columns_relative]
    split <;> omega
  rw [decodeFrom, hline, hstart]
  rfl

theorem le_place_of_decodeFrom_relative {line start : Nat} {token : CodedToken}
    {deltas : List DeltaToken} {rest : List CodedToken}
    (h : decodeFrom line start (relative line start token :: deltas) = token :: rest) :
    toLex (line, start) ≤ token.place := by
  have hhead := (List.cons.inj h).1
  have hline : line + (relative line start token).lines = token.line :=
    congrArg CodedToken.line hhead
  have hstart : (if (relative line start token).lines = 0
      then start + (relative line start token).columns
      else (relative line start token).columns) = token.start :=
    congrArg CodedToken.start hhead
  rw [lines_relative] at hline hstart
  rw [columns_relative] at hstart
  rw [CodedToken.le_place_iff]
  split at hstart <;> omega

/-- **Decoding undoes encoding exactly where no token goes back**, neither behind the one
before it nor behind the place that counting starts from. -/
theorem decodeFrom_encodeFrom_eq_iff (line start : Nat) (tokens : List CodedToken) :
    decodeFrom line start (encodeFrom line start tokens) = tokens ↔
      List.IsChain (· ≤ ·) (toLex (line, start) :: tokens.map CodedToken.place) := by
  induction tokens generalizing line start with
  | nil => simp [encodeFrom, decodeFrom]
  | cons token tokens ih =>
    rw [List.map_cons, List.isChain_cons_cons, encodeFrom]
    constructor
    · intro h
      have hfirst := le_place_of_decodeFrom_relative h
      rw [decodeFrom_relative hfirst] at h
      exact ⟨hfirst, (ih _ _).1 (List.cons.inj h).2⟩
    · rintro ⟨hfirst, hrest⟩
      rw [decodeFrom_relative hfirst]
      exact congrArg (token :: ·) ((ih _ _).2 hrest)

theorem decode_encode_eq_iff (tokens : List CodedToken) :
    decode (encode tokens) = tokens ↔ (tokens.map CodedToken.place).Pairwise (· ≤ ·) := by
  have hzero : ∀ place ∈ tokens.map CodedToken.place, toLex (0, 0) ≤ place := fun _ _ => bot_le
  rw [decode, encode, decodeFrom_encodeFrom_eq_iff, List.isChain_iff_pairwise,
    List.pairwise_cons, and_iff_right hzero]

theorem decode_encode {tokens : List CodedToken}
    (h : (tokens.map CodedToken.place).Pairwise (· ≤ ·)) : decode (encode tokens) = tokens :=
  (decode_encode_eq_iff tokens).2 h

theorem map_place_decodeFrom_encodeFrom_iff (line start : Nat) (tokens : List CodedToken) :
    (decodeFrom line start (encodeFrom line start tokens)).map CodedToken.place =
        tokens.map CodedToken.place ↔
      decodeFrom line start (encodeFrom line start tokens) = tokens := by
  refine ⟨fun h => ?_, congrArg (List.map CodedToken.place)⟩
  induction tokens generalizing line start with
  | nil => rfl
  | cons token tokens ih =>
    rw [encodeFrom, decodeFrom] at h ⊢
    rw [List.map_cons, List.map_cons, List.cons.injEq] at h
    obtain ⟨hplace, hrest⟩ := h
    obtain ⟨hline, hstart⟩ := Prod.mk.inj (toLex_inj.1 hplace)
    simp only at hline hstart
    rw [hline, hstart] at hrest ⊢
    rw [ih _ _ hrest]
    rfl

/-- Whether a relative token stands for a token: with differences that are no greater than what
they are taken from, and with the same length and numbers. -/
structure StandsFor (delta : DeltaToken) (token : CodedToken) : Prop where
  lines_le : delta.lines ≤ token.line
  columns_le : delta.columns ≤ token.start
  length : delta.length = token.length
  type : delta.type = token.type
  modifiers : delta.modifiers = token.modifiers

theorem standsFor_relative (line start : Nat) (token : CodedToken) :
    StandsFor (relative line start token) token := by
  refine ⟨Nat.sub_le _ _, ?_, rfl, rfl, rfl⟩
  rw [columns_relative]
  split <;> omega

theorem forall₂_standsFor (line start : Nat) (tokens : List CodedToken) :
    List.Forall₂ StandsFor (encodeFrom line start tokens) tokens := by
  induction tokens generalizing line start with
  | nil => exact .nil
  | cons token tokens ih => exact .cons (standsFor_relative line start token) (ih _ _)

theorem exists_of_mem_encodeFrom {line start : Nat} {tokens : List CodedToken}
    {delta : DeltaToken} (h : delta ∈ encodeFrom line start tokens) :
    ∃ token ∈ tokens, StandsFor delta token := by
  induction tokens generalizing line start with
  | nil => exact absurd h List.not_mem_nil
  | cons token tokens ih =>
    rw [encodeFrom, List.mem_cons] at h
    rcases h with rfl | h
    · exact ⟨token, List.mem_cons_self, standsFor_relative line start token⟩
    · obtain ⟨other, hother, hstands⟩ := ih h
      exact ⟨other, List.mem_cons_of_mem _ hother, hstands⟩

/-- Reads relative tokens from their numbers, five at a time. -/
def ofNumbers? : List Nat → Option (List DeltaToken)
  | [] => some []
  | lines :: columns :: length :: type :: modifiers :: numbers =>
    (ofNumbers? numbers).map (⟨lines, columns, length, type, modifiers⟩ :: ·)
  | _ => none

theorem ofNumbers?_numbers (tokens : List DeltaToken) :
    ofNumbers? (tokens.flatMap numbers) = some tokens := by
  induction tokens with
  | nil => rfl
  | cons token tokens ih =>
    rw [List.flatMap_cons, numbers]
    show (ofNumbers? (tokens.flatMap numbers)).map _ = _
    rw [ih]
    rfl

/-! ## Tokens pushed one by one -/

/-- A difference that must not lie below zero. -/
def difference? (a b : Nat) : Option Nat := if b ≤ a then some (a - b) else none

theorem difference?_of_le {a b : Nat} (h : b ≤ a) : difference? a b = some (a - b) := if_pos h

/-- The relative tokens that have been pushed, and the place of the last token. -/
structure Builder where
  tokens : List DeltaToken
  line : Nat
  start : Nat
  deriving Repr, DecidableEq

namespace Builder

def fresh : Builder := ⟨[], 0, 0⟩

/-- How many lines a token lies behind the last one.  Going back counts as staying. -/
def lines? (builder : Builder) (line : Nat) : Option Nat :=
  if builder.line ≤ line then difference? line builder.line else some 0

/-- The column to send for a token that lies `lines` lines behind the last one. -/
def columns? (builder : Builder) (lines start : Nat) : Option Nat :=
  if lines = 0 ∧ builder.start ≤ start then difference? start builder.start
  else if lines = 0 then some 0
  else some start

/-- Pushes a token.  There is no outcome if a difference that is taken lies below zero. -/
def push? (builder : Builder) (token : CodedToken) : Option Builder := do
  let lines ← builder.lines? token.line
  let columns ← builder.columns? lines token.start
  let delta : DeltaToken := ⟨lines, columns, token.length, token.type, token.modifiers⟩
  return ⟨builder.tokens ++ [delta], token.line, token.start⟩

theorem lines?_eq (builder : Builder) (line : Nat) :
    builder.lines? line = some (line - builder.line) := by
  unfold lines?
  by_cases h : builder.line ≤ line
  · rw [if_pos h, difference?_of_le h]
  · rw [if_neg h, Nat.sub_eq_zero_of_le (by omega)]

theorem columns?_eq (builder : Builder) (lines start : Nat) :
    builder.columns? lines start = some (if lines = 0 then start - builder.start else start) := by
  unfold columns?
  by_cases hlines : lines = 0
  · by_cases hstart : builder.start ≤ start
    · rw [if_pos ⟨hlines, hstart⟩, if_pos hlines, difference?_of_le hstart]
    · rw [if_neg fun h => hstart h.2, if_pos hlines, if_pos hlines,
        Nat.sub_eq_zero_of_le (by omega)]
  · rw [if_neg fun h => hlines h.1, if_neg hlines, if_neg hlines]

/-- **Every token can be pushed**, whatever has been pushed before, and is then held relative
to the last one. -/
theorem push?_eq (builder : Builder) (token : CodedToken) :
    builder.push? token =
      some ⟨builder.tokens ++ [relative builder.line builder.start token], token.line,
        token.start⟩ := by
  unfold push?
  rw [lines?_eq, Option.bind_eq_bind, Option.bind_some, columns?_eq]
  rfl

theorem foldlM_push? (builder : Builder) (tokens : List CodedToken) :
    ∃ last, tokens.foldlM push? builder = some last ∧
      last.tokens = builder.tokens ++ encodeFrom builder.line builder.start tokens := by
  induction tokens generalizing builder with
  | nil => exact ⟨builder, rfl, (List.append_nil _).symm⟩
  | cons token tokens ih =>
    rw [List.foldlM_cons, push?_eq, Option.bind_eq_bind, Option.bind_some]
    obtain ⟨last, hlast, htokens⟩ :=
      ih ⟨builder.tokens ++ [relative builder.line builder.start token], token.line, token.start⟩
    refine ⟨last, hlast, ?_⟩
    rw [htokens, encodeFrom, List.append_assoc, List.singleton_append]

end Builder

end DeltaToken

open DeltaToken in
/-- **Tokens that are pushed one by one can be read back exactly if none goes back.**  Whatever
tokens are pushed in whatever order, no difference that is taken lies below zero, and one
relative token is held for each, in the same order, with its length, its numbers and no
difference greater than the number it is taken from.  Decoding what is held gives the places of
the tokens again if and only if they come in the order of their places. -/
theorem pushed_tokens_read_back (tokens : List CodedToken) :
    ∃ last, tokens.foldlM Builder.push? Builder.fresh = some last ∧
      last.tokens = encode tokens ∧
      List.Forall₂ StandsFor last.tokens tokens ∧
      ((decode last.tokens).map CodedToken.place = tokens.map CodedToken.place ↔
        (tokens.map CodedToken.place).Pairwise (· ≤ ·)) := by
  obtain ⟨last, hlast, hheld⟩ := Builder.foldlM_push? Builder.fresh tokens
  have htokens : last.tokens = encode tokens := hheld
  refine ⟨last, hlast, htokens, htokens ▸ forall₂_standsFor 0 0 tokens, ?_⟩
  rw [htokens, ← decode_encode_eq_iff]
  exact map_place_decodeFrom_encodeFrom_iff 0 0 tokens

/-- A token that goes back is read where the last one stands, and the next one from its own
place on. -/
example : (DeltaToken.decode (DeltaToken.encode
    [⟨2, 5, 1, 0, 0⟩, ⟨0, 3, 1, 0, 0⟩, ⟨1, 4, 1, 0, 0⟩])).map CodedToken.place =
      [toLex (2, 5), toLex (2, 5), toLex (3, 4)] := by decide

/-! ## Types and modifiers -/

theorem TokenType.mem_all (type : TokenType) : type ∈ all := by
  cases type <;> decide

theorem TokenType.getElem?_code (type : TokenType) : all[type.code]? = some type :=
  List.getElem?_idxOf (mem_all type)

namespace TokenModifier

theorem mem_all (modifier : TokenModifier) : modifier ∈ all := by
  cases modifier <;> decide

theorem testBit_foldl (modifiers : List TokenModifier) (set i : Nat) :
    (modifiers.foldl (fun set modifier => set ||| 1 <<< modifier.bit) set).testBit i = true ↔
      set.testBit i = true ∨ ∃ modifier ∈ modifiers, modifier.bit = i := by
  induction modifiers generalizing set with
  | nil => simp
  | cons modifier modifiers ih =>
    have hone : (1 <<< modifier.bit).testBit i = true ↔ modifier.bit = i := by
      rw [Nat.one_shiftLeft, Nat.testBit_two_pow, decide_eq_true_iff]
    rw [List.foldl_cons, ih, Nat.testBit_or, Bool.or_eq_true, hone, List.exists_mem_cons_iff,
      or_assoc]

theorem testBit_bits (modifiers : List TokenModifier) (i : Nat) :
    (bits modifiers).testBit i = true ↔ ∃ modifier ∈ modifiers, modifier.bit = i := by
  rw [bits, testBit_foldl]
  simp

theorem bit_injective {a b : TokenModifier} (h : a.bit = b.bit) : a = b :=
  (List.idxOf_inj (mem_all a)).1 h

theorem testBit_bits_bit (modifiers : List TokenModifier) (modifier : TokenModifier) :
    (bits modifiers).testBit modifier.bit = true ↔ modifier ∈ modifiers := by
  rw [testBit_bits]
  constructor
  · rintro ⟨other, hother, hbit⟩
    exact bit_injective hbit ▸ hother
  · exact fun h => ⟨modifier, h, rfl⟩

end TokenModifier

end DawnServer
