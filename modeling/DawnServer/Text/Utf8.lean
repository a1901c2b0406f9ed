import DawnServer.Text.Basic

/-!
# UTF-8

Texts as bytes and back.  Reading goes byte by byte and keeps what is still
expected of the character that has begun, so an ill-formed stretch is found at
the first byte that cannot continue it.
-/

namespace DawnServer.Utf8

def encodeChar (c : Char) : List UInt8 :=
  let n := c.toNat
  if n < 0x80 then [n.toUInt8]
  else if n < 0x800 then [(0xC0 + n / 0x40).toUInt8, (0x80 + n % 0x40).toUInt8]
  else if n < 0x10000 then
    [(0xE0 + n / 0x1000).toUInt8, (0x80 + n / 0x40 % 0x40).toUInt8, (0x80 + n % 0x40).toUInt8]
  else
    [(0xF0 + n / 0x40000).toUInt8, (0x80 + n / 0x1000 % 0x40).toUInt8,
      (0x80 + n / 0x40 % 0x40).toUInt8, (0x80 + n % 0x40).toUInt8]

def encode (text : Text) : List UInt8 := text.flatMap encodeChar

/-- A character that has begun: the bits read so far, the number of bytes still to
come, and the range of the next one. -/
structure Pending where
  bits : Nat
  missing : Nat
  low : Nat
  high : Nat

inductive Lead where
  | single (c : Char)
  | begins (pending : Pending)
  | invalid

/-- Reads the first byte of a character.  The range of the second byte shuts out
overlong forms, surrogates and values beyond the last code point. -/
def lead (b : Nat) : Lead :=
  if b < 0x80 then .single (Char.ofNat b)
  else if b < 0xC2 then .invalid
  else if b < 0xE0 then .begins ⟨b - 0xC0, 1, 0x80, 0xBF⟩
  else if b = 0xE0 then .begins ⟨0, 2, 0xA0, 0xBF⟩
  else if b = 0xED then .begins ⟨0xD, 2, 0x80, 0x9F⟩
  else if b < 0xF0 then .begins ⟨b - 0xE0, 2, 0x80, 0xBF⟩
  else if b = 0xF0 then .begins ⟨0, 3, 0x90, 0xBF⟩
  else if b < 0xF4 then .begins ⟨b - 0xF0, 3, 0x80, 0xBF⟩
  else if b = 0xF4 then .begins ⟨4, 3, 0x80, 0x8F⟩
  else .invalid

/-- The characters of a row of bytes, with `none` for each longest stretch that
begins a character and does not complete it, and for each byte that begins none. -/
def scan : Option Pending → List UInt8 → List (Option Char)
  | none, [] => []
  | some _, [] => [none]
  | none, b :: bytes =>
    match lead b.toNat with
    | .single c => some c :: scan none bytes
    | .begins pending => scan (some pending) bytes
    | .invalid => none :: scan none bytes
  | some p, b :: bytes =>
    if p.low ≤ b.toNat ∧ b.toNat ≤ p.high then
      let bits := p.bits * 0x40 + (b.toNat - 0x80)
      if p.missing ≤ 1 then some (Char.ofNat bits) :: scan none bytes
      else scan (some ⟨bits, p.missing - 1, 0x80, 0xBF⟩) bytes
    else
      none :: match lead b.toNat with
        | .single c => some c :: scan none bytes
        | .begins pending => scan (some pending) bytes
        | .invalid => none :: scan none bytes

def decode? (bytes : List UInt8) : Option Text := (scan none bytes).mapM id

/-- The text of any bytes, with U+FFFD for each ill-formed stretch. -/
def decodeLossy (bytes : List UInt8) : Text :=
  (scan none bytes).map (·.getD '\uFFFD')

end DawnServer.Utf8
