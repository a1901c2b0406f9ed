import DawnServer.Text.Basic

/-!
# Tables of code points

Properties of characters are written down as runs of code points with a value each,
`300-314:230`, and looked up by halving.  A set is a table without values; the value
of a mapping says what the code points of the run become.
-/

namespace DawnServer.Text

/-- Runs of code points in increasing order: the first and the last one, and the value
that they have in common. -/
structure CodeTable (α : Type) where
  runs : Array (Nat × Nat × α)

/-- What the code points of a run become.  A run holds every code point that lies a
multiple of `step` after the first one, and moves as a whole. -/
structure Image where
  codes : List Nat
  step : Nat

namespace CodeTable

variable {α : Type}

/-- The number of runs that begin at or before `n`, if the first `low` do and those
from `high` on do not. -/
def rank (table : CodeTable α) (n low high : Nat) : Nat :=
  if low < high then
    let middle := (low + high) / 2
    match table.runs[middle]? with
    | some (first, _) =>
      if first ≤ n then rank table n (middle + 1) high else rank table n low middle
    | none => rank table n low middle
  else low
termination_by high - low

/-- The first code point of the run that holds `n`, and the value of that run. -/
def find? (table : CodeTable α) (n : Nat) : Option (Nat × α) :=
  match table.runs[table.rank n 0 table.runs.size - 1]? with
  | some (first, last, value) => if first ≤ n ∧ n ≤ last then some (first, value) else none
  | none => none

def contains (table : CodeTable α) (n : Nat) : Bool := (table.find? n).isSome

def get? (table : CodeTable α) (n : Nat) : Option α := (table.find? n).map (·.2)

def image? (table : CodeTable Image) (c : Char) : Option Text :=
  match table.find? c.toNat with
  | some (first, image) =>
    if (c.toNat - first) % image.step = 0 then
      some (image.codes.map fun code => Char.ofNat (code + (c.toNat - first)))
    else none
  | none => none

/-- Reads a run: a code point, or two with a hyphen between, and a value after a
colon. -/
def readRun? (value? : Text → Option α) (word : Text) : Option (Nat × Nat × α) := do
  let (codes, value) := cut ':' word
  let (first, last) := cut '-' codes
  let first ← number? 16 first
  let last ← number? 16 (last.getD (cut '-' codes).1)
  let value ← value? (value.getD [])
  return (first, last, value)

def read (value? : Text → Option α) (source : String) : CodeTable α :=
  ⟨((source.toList.splitOnP isBlank).filterMap (readRun? value?)).toArray⟩

/-- Reads the codes that the first code point of a run becomes, with plus signs
between, and the step after a slash. -/
def readImage? (text : Text) : Option Image := do
  let (codes, step) := cut '/' text
  let codes ← if codes.isEmpty then some [] else (codes.splitOn '+').mapM (number? 16)
  let step ← number? 10 (step.getD ['1'])
  return ⟨codes, step⟩

def set (source : String) : CodeTable Unit := read (fun _ => some ()) source

def numbers (source : String) : CodeTable Nat := read (number? 10) source

def letters (source : String) : CodeTable Char := read List.head? source

def images (source : String) : CodeTable Image := read readImage? source

end CodeTable

end DawnServer.Text
