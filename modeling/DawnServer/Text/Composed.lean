import DawnServer.Text.Combining
import DawnServer.Text.Decomposition

/-!
# Composed form

Normalization form C: every character is taken apart, the marks that follow a starter
are put in order of their classes, and what can be composed is composed again, so that
texts that look and mean the same are the same.
-/

namespace DawnServer.Text

/-! ## Taking apart -/

/-- The leading consonant, the vowel and the trailing consonant of a syllable of Hangul,
of which the last may be missing. -/
def hangulParts? (c : Char) : Option Text :=
  let n := c.toNat
  if 0xAC00 ≤ n ∧ n ≤ 0xD7A3 then
    let index := n - 0xAC00
    let trailing := if index % 28 = 0 then [] else [Char.ofNat (0x11A7 + index % 28)]
    some (Char.ofNat (0x1100 + index / 588) :: Char.ofNat (0x1161 + index % 588 / 28) :: trailing)
  else none

def decomposeWithin : Nat → Char → Text
  | 0, c => [c]
  | steps + 1, c =>
    match decompositions.image? c with
    | some parts => parts.flatMap (decomposeWithin steps)
    | none => [c]

/-- The characters that a character stands for.  No decomposition takes more than four
steps, and the first character that has one is U+00C0. -/
def decompose (c : Char) : Text :=
  if c.toNat < 0xC0 then [c] else (hangulParts? c).getD (decomposeWithin 4 c)

/-! ## Order -/

/-- Puts a character before a text whose marks are in order.  A mark passes the marks of
lower classes, and no starter. -/
def insertMark (c : Char) : Text → Text
  | [] => [c]
  | d :: text =>
    if 0 < combiningClass d ∧ combiningClass d < combiningClass c then d :: insertMark c text
    else c :: d :: text

def orderMarks (text : Text) : Text := text.foldr insertMark []

/-! ## Composition -/

def pairKey (a b : Nat) : Nat := a * 0x110000 + b

def compositions : CodeTable Char :=
  let pairs := decompositions.runs.toList.filterMap fun (first, _, image) =>
    match image.codes with
    | [a, b] =>
      if compositionExclusions.contains first then none
      else some (pairKey a b, pairKey a b, Char.ofNat first)
    | _ => none
  ⟨(pairs.mergeSort fun p q => p.1 ≤ q.1).toArray⟩

def hangulSyllable? (a b : Char) : Option Char :=
  let m := a.toNat
  let n := b.toNat
  if 0x1100 ≤ m ∧ m ≤ 0x1112 ∧ 0x1161 ≤ n ∧ n ≤ 0x1175 then
    some (Char.ofNat (0xAC00 + (m - 0x1100) * 588 + (n - 0x1161) * 28))
  else if 0xAC00 ≤ m ∧ m ≤ 0xD7A3 ∧ (m - 0xAC00) % 28 = 0 ∧ 0x11A8 ≤ n ∧ n ≤ 0x11C2 then
    some (Char.ofNat (m + (n - 0x11A7)))
  else none

/-- The character that two characters compose to.  No second one lies before U+0300. -/
def composite? (a b : Char) : Option Char :=
  if b.toNat < 0x300 then none
  else
    match hangulSyllable? a b with
    | some c => some c
    | none => compositions.get? (pairKey a.toNat b.toNat)

/-- Composes a starter with what follows it.  The marks that have not become part of it
are `kept`, last one first, and one of them keeps out the marks of its own class or a
lower one. -/
def composeFrom (starter : Char) (kept : Text) : Text → Text
  | [] => starter :: kept.reverse
  | c :: text =>
    let blocked :=
      match kept with
      | [] => false
      | d :: _ => combiningClass c ≤ combiningClass d
    match (if blocked then none else composite? starter c) with
    | some starter => composeFrom starter kept text
    | none =>
      if combiningClass c = 0 then starter :: (kept.reverse ++ composeFrom c [] text)
      else composeFrom starter (c :: kept) text

def compose : Text → Text
  | [] => []
  | c :: text => if combiningClass c = 0 then composeFrom c [] text else c :: compose text

def composed (text : Text) : Text := compose (orderMarks (text.flatMap decompose))

end DawnServer.Text
