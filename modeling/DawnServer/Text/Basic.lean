/-!
# Texts

A text is a list of characters.  Every part of the server works on this one
representation: documents, names, paths, URIs and messages.  Order is the order
of lists, character by character, which is the order of code points.  White space is
what the Unicode property of that name says.
-/

namespace DawnServer

/-- A text is the list of its characters. -/
abbrev Text := List Char

namespace Text

/-- Equality of texts decides membership in lists of texts. -/
instance lawfulBEq : LawfulBEq Text := inferInstance

def dropLead? : Text → Text → Option Text
  | [], text => some text
  | _ :: _, [] => none
  | c :: lead, d :: text => if c = d then dropLead? lead text else none

def startsWith (text lead : Text) : Bool := (dropLead? lead text).isSome

def endsWith (text tail : Text) : Bool := startsWith text.reverse tail.reverse

def dropFirst (c : Char) : Text → Text
  | [] => []
  | d :: text => if d = c then text else d :: text

def dropLast? (c : Char) : Text → Option Text
  | [] => none
  | [d] => if d = c then some [] else none
  | d :: e :: text => (dropLast? c (e :: text)).map (d :: ·)

def dropLastOf (c : Char) (text : Text) : Text := (dropLast? c text).getD text

/-- The text up to the first `c`, and the text after that `c` if there is one. -/
def cut (c : Char) : Text → Text × Option Text
  | [] => ([], none)
  | d :: text =>
    if d = c then ([], some text)
    else ((d :: (cut c text).1), (cut c text).2)

def asciiLower (text : Text) : Text := text.map Char.toLower

/-- Whether a character has the Unicode property `White_Space`. -/
def isBlank (c : Char) : Bool :=
  let n := c.toNat
  (9 ≤ n && n ≤ 13) || n == 0x20 || n == 0x85 || n == 0xA0 || n == 0x1680 ||
    (0x2000 ≤ n && n ≤ 0x200A) || n == 0x2028 || n == 0x2029 || n == 0x202F ||
    n == 0x205F || n == 0x3000

def trimStart (text : Text) : Text := text.dropWhile isBlank

def trimEnd (text : Text) : Text := (trimStart text.reverse).reverse

def trim (text : Text) : Text := trimEnd (trimStart text)

@[simp] theorem dropLead?_append (lead text : Text) :
    dropLead? lead (lead ++ text) = some text := by
  induction lead with
  | nil => rfl
  | cons c lead ih => simp [dropLead?, ih]

theorem eq_append_of_dropLead? {lead text rest : Text} (h : dropLead? lead text = some rest) :
    text = lead ++ rest := by
  induction lead generalizing text with
  | nil => simpa [dropLead?] using h
  | cons c lead ih =>
    cases text with
    | nil => simp [dropLead?] at h
    | cons d text =>
      by_cases hc : c = d
      · simp only [dropLead?, hc, if_true] at h
        simp [hc, ih h]
      · simp [dropLead?, hc] at h

@[simp] theorem dropLast?_append (c : Char) (text : Text) :
    dropLast? c (text ++ [c]) = some text := by
  induction text with
  | nil => simp [dropLast?]
  | cons d text ih =>
    cases text with
    | nil => simp [dropLast?]
    | cons e text => simpa [dropLast?] using ih

/-! ## Numerals

Decimal and hexadecimal digits: reading them as numbers and writing numbers with them. -/

def hexValue? (c : Char) : Option Nat :=
  let n := c.toNat
  if 48 ≤ n ∧ n ≤ 57 then some (n - 48)
  else if 97 ≤ n ∧ n ≤ 102 then some (n - 87)
  else if 65 ≤ n ∧ n ≤ 70 then some (n - 55)
  else none

def hexDigit (n : Nat) : Char := Nat.digitChar (n % 16)

def hexDigitUpper (n : Nat) : Char := (hexDigit n).toUpper

/-- Continues the number `acc` in the given base with further digits, none of which
may be foreign to the base. -/
def readDigits (base : Nat) (acc : Nat) : Text → Option Nat
  | [] => some acc
  | c :: text =>
    match hexValue? c with
    | some d => if d < base then readDigits base (acc * base + d) text else none
    | none => none

def number? (base : Nat) : Text → Option Nat
  | [] => none
  | c :: text => readDigits base 0 (c :: text)

def ofNat (n : Nat) : Text := Nat.toDigits 10 n

def ofInt : Int → Text
  | .ofNat n => ofNat n
  | .negSucc n => '-' :: ofNat (n + 1)

def ofNatHex (n : Nat) : Text := Nat.toDigits 16 n

end Text

end DawnServer
