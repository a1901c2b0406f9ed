import DawnServer.Text.Basic

/-!
# Punycode

The ASCII form of labels beyond ASCII: the basic characters, and then
the others in increasing order as differences in a mixed-radix notation.
-/

namespace DawnServer.Punycode

def digit (n : Nat) : Char := if n < 26 then Char.ofNat (97 + n) else Char.ofNat (22 + n)

def digitValue? (c : Char) : Option Nat :=
  let n := c.toNat
  if 97 ≤ n ∧ n ≤ 122 then some (n - 97)
  else if 65 ≤ n ∧ n ≤ 90 then some (n - 65)
  else if 48 ≤ n ∧ n ≤ 57 then some (n - 22)
  else none

/-- The bias that a scaled difference results in, after divisions by 35 down to 455. -/
def settle : Nat → Nat → Nat → Nat
  | 0, delta, k => k + 36 * delta / (delta + 38)
  | fuel + 1, delta, k =>
    if 455 < delta then settle fuel (delta / 35) (k + 36) else k + 36 * delta / (delta + 38)

def adapt (delta points : Nat) (first : Bool) : Nat :=
  let delta := if first then delta / 700 else delta / 2
  settle delta (delta + delta / points) 0

def threshold (k bias : Nat) : Nat := if k ≤ bias then 1 else if bias + 26 ≤ k then 26 else k - bias

def digits (bias : Nat) : Nat → Nat → Nat → Text
  | 0, _, _ => []
  | fuel + 1, k, q =>
    let t := threshold k bias
    if q < t then [digit q]
    else digit (t + (q - t) % (36 - t)) :: digits bias fuel (k + 36) ((q - t) / (36 - t))

/-- The state of writing: the difference so far, the bias, the number of characters
written, and the output. -/
structure Writer where
  delta : Nat
  bias : Nat
  written : Nat
  output : Text

/-- Goes once through a label for the code point `n`, of whose characters `basic` were
written at the outset. -/
def writePass (basic n : Nat) (writer : Writer) : Text → Writer
  | [] => writer
  | c :: label =>
    let writer :=
      if c.toNat < n then { writer with delta := writer.delta + 1 }
      else if c.toNat = n then
        { delta := 0
          bias := adapt writer.delta (writer.written + 1) (writer.written == basic)
          written := writer.written + 1
          output := writer.output ++ digits writer.bias (writer.delta + 2) 36 writer.delta }
      else writer
    writePass basic n writer label

def leastFrom? (n : Nat) (label : Text) : Option Nat :=
  ((label.map Char.toNat).filter (n ≤ ·)).min?

def writeFrom (basic : Nat) (label : Text) : Nat → Nat → Writer → Writer
  | 0, _, writer => writer
  | fuel + 1, n, writer =>
    match leastFrom? n label with
    | none => writer
    | some m =>
      let writer := { writer with delta := writer.delta + (m - n) * (writer.written + 1) }
      let writer := writePass basic m writer label
      writeFrom basic label fuel (m + 1) { writer with delta := writer.delta + 1 }

def encode (label : Text) : Text :=
  let basic := label.filter fun c => c.toNat < 0x80
  let output := if basic.isEmpty then [] else basic ++ ['-']
  (writeFrom basic.length label label.length 0x80 ⟨0, 72, basic.length, output⟩).output

def bound : Nat := 0x100000000

/-- Reads one difference: its value and the rest. -/
def readDifference (bias : Nat) (k weight value : Nat) : Text → Option (Nat × Text)
  | [] => none
  | c :: text =>
    match digitValue? c with
    | none => none
    | some d =>
      let t := threshold k bias
      let value := value + d * weight
      if bound ≤ value then none
      else if d < t then some (value, text)
      else if bound ≤ weight * (36 - t) then none
      else readDifference bias (k + 36) (weight * (36 - t)) value text

/-- Reads the differences that follow the basic characters.  The code point reached
is `n`, and the next character belongs at place `i` or after it. -/
def readFrom : Nat → Nat → Nat → Nat → Text → Text → Option Text
  | 0, _, _, _, output, text => if text.isEmpty then some output else none
  | fuel + 1, n, i, bias, output, text =>
    match text with
    | [] => some output
    | c :: text =>
      match readDifference bias 36 1 i (c :: text) with
      | none => none
      | some (value, rest) =>
        let points := output.length + 1
        let n := n + value / points
        let place := value % points
        if n < 0x110000 ∧ ¬ (0xD800 ≤ n ∧ n < 0xE000) then
          readFrom fuel n (place + 1) (adapt (value - i) points (i == 0))
            (output.take place ++ Char.ofNat n :: output.drop place) rest
        else none

def cutLastHyphen (text : Text) : Text × Text :=
  let tail := (text.reverse.takeWhile (· ≠ '-')).reverse
  (text.take (text.length - tail.length - 1), tail)

/-- The label that a Punycode form stands for.  A hyphen ends the basic characters only
if there are any. -/
def decode? (text : Text) : Option Text :=
  let (basic, rest) := cutLastHyphen text
  let rest := if basic.isEmpty then text else rest
  if basic.all (·.toNat < 0x80) then readFrom rest.length 0x80 0 72 basic rest else none

end DawnServer.Punycode
