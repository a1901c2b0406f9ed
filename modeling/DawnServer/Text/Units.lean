import DawnServer.Text.Basic

/-!
# UTF-16 code units

Editors count columns in UTF-16 code units: a character of the basic plane is one
unit, any other is a surrogate pair.  Lines, columns and lengths are sent in 32 bits.
-/

namespace DawnServer

instance coeUInt32 : Coe UInt32 Nat := ⟨UInt32.toNat⟩

namespace Text

def charUnits (c : Char) : Nat := if c.toNat < 0x10000 then 1 else 2

def units : Text → Nat
  | [] => 0
  | c :: text => charUnits c + units text

/-- The units of a text counted in 32 bits, where a count that is too large wraps. -/
def units32 (text : Text) : UInt32 := UInt32.ofNat (units text)

/-- The number of characters of a text that lie wholly within its first `n` units.
A count that falls inside a surrogate pair stops before the pair. -/
def charsWithin : Nat → Text → Nat
  | _, [] => 0
  | n, c :: text => if charUnits c ≤ n then charsWithin (n - charUnits c) text + 1 else 0

def charUnitValues (c : Char) : List Nat :=
  if c.toNat < 0x10000 then [c.toNat]
  else [0xD800 + (c.toNat - 0x10000) / 0x400, 0xDC00 + (c.toNat - 0x10000) % 0x400]

def unitValues (text : Text) : List Nat := text.flatMap charUnitValues

theorem charUnits_pos (c : Char) : 0 < charUnits c := by
  unfold charUnits; split <;> decide

@[simp] theorem units_append (a b : Text) : units (a ++ b) = units a + units b := by
  induction a with
  | nil => simp [units]
  | cons c a ih => simp [units, ih, Nat.add_assoc]

@[simp] theorem length_charUnitValues (c : Char) : (charUnitValues c).length = charUnits c := by
  unfold charUnitValues charUnits; split <;> rfl

theorem length_unitValues (text : Text) : (unitValues text).length = units text := by
  induction text with
  | nil => rfl
  | cons c text ih =>
    rw [unitValues, List.flatMap_cons, List.length_append, length_charUnitValues]
    exact congrArg _ ih

end Text

end DawnServer
