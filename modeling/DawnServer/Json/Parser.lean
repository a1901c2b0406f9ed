import DawnServer.Json.Basic

/-!
# Reading JSON

The grammar of JSON, strictly: four characters of white space, no leading
zeros, no trailing commas, no bare controls in strings, and surrogate escapes in
pairs only.  The grammar is all that is asked.  A reader of machine numbers also
refuses a number beyond the range of a double and values nested 128 deep or
deeper; here both are values.
-/

namespace DawnServer.Json

def skipSpace (text : Text) : Text :=
  text.dropWhile fun c => c == ' ' || c == '\n' || c == '\r' || c == '\t'

def hexQuad? (a b c d : Char) : Option Nat := do
  let a ← Text.hexValue? a
  let b ← Text.hexValue? b
  let c ← Text.hexValue? c
  let d ← Text.hexValue? d
  return ((a * 16 + b) * 16 + c) * 16 + d

def unescape? : Char → Option Char
  | '"' => some '"'
  | '\\' => some '\\'
  | '/' => some '/'
  | 'b' => some '\x08'
  | 'f' => some '\x0c'
  | 'n' => some '\n'
  | 'r' => some '\r'
  | 't' => some '\t'
  | _ => none

def pushChar (c : Char) : Option (Text × Text) → Option (Text × Text) :=
  Option.map fun (text, rest) => (c :: text, rest)

/-- Reads a string after its opening quote: its text, and what follows it. -/
def string? : Text → Option (Text × Text)
  | [] => none
  | '"' :: rest => some ([], rest)
  | '\\' :: 'u' :: a :: b :: c :: d :: rest =>
    match hexQuad? a b c d with
    | none => none
    | some n =>
      if n < 0xD800 ∨ 0xE000 ≤ n then pushChar (Char.ofNat n) (string? rest)
      else if 0xDC00 ≤ n then none
      else
        match rest with
        | '\\' :: 'u' :: a :: b :: c :: d :: rest =>
          match hexQuad? a b c d with
          | none => none
          | some m =>
            if 0xDC00 ≤ m ∧ m < 0xE000 then
              pushChar (Char.ofNat (0x10000 + (n - 0xD800) * 0x400 + (m - 0xDC00)))
                (string? rest)
            else none
        | _ => none
  | '\\' :: c :: rest =>
    match unescape? c with
    | none => none
    | some d => pushChar d (string? rest)
  | ['\\'] => none
  | c :: rest => if c.toNat < 0x20 then none else pushChar c (string? rest)

def digits? (text : Text) : Option (Text × Text) :=
  match text.takeWhile Char.isDigit with
  | [] => none
  | digits => some (digits, text.dropWhile Char.isDigit)

/-- Reads the digits before a decimal point: a lone zero, or a row without a leading
zero. -/
def whole? : Text → Option (Text × Text)
  | '0' :: rest =>
    match rest with
    | c :: _ => if c.isDigit then none else some (['0'], rest)
    | [] => some (['0'], [])
  | text => digits? text

def fraction? : Text → Option (Text × Text)
  | '.' :: rest => (digits? rest).map fun (digits, rest) => ('.' :: digits, rest)
  | text => some ([], text)

def exponent? : Text → Option (Text × Text)
  | c :: rest =>
    if c == 'e' || c == 'E' then
      match rest with
      | '+' :: rest => (digits? rest).map fun (digits, rest) => (c :: '+' :: digits, rest)
      | '-' :: rest => (digits? rest).map fun (digits, rest) => (c :: '-' :: digits, rest)
      | rest => (digits? rest).map fun (digits, rest) => (c :: digits, rest)
    else some ([], c :: rest)
  | [] => some ([], [])

/-- The value of a number from its parts.  Integers are the numbers without fraction
and exponent that fit into 64 bits, signed or not; minus zero is none of them. -/
def ofParts (negative : Bool) (whole fraction exponent : Text) : Json :=
  let spelling := (if negative then ['-'] else []) ++ whole ++ fraction ++ exponent
  match fraction ++ exponent, Text.number? 10 whole with
  | [], some n =>
    if negative then
      if 0 < n ∧ n ≤ 0x8000000000000000 then .int (-n) else .real spelling
    else if n ≤ 0xFFFFFFFFFFFFFFFF then .int n
    else .real spelling
  | _, _ => .real spelling

def number? (negative : Bool) (text : Text) : Option (Json × Text) := do
  let (whole, text) ← whole? text
  let (fraction, text) ← fraction? text
  let (exponent, text) ← exponent? text
  return (ofParts negative whole fraction exponent, text)

def leaf? : Text → Option (Json × Text)
  | '"' :: rest => (string? rest).map fun (text, rest) => (.str text, rest)
  | '-' :: rest => number? true rest
  | 'n' :: 'u' :: 'l' :: 'l' :: rest => some (.null, rest)
  | 't' :: 'r' :: 'u' :: 'e' :: rest => some (.bool true, rest)
  | 'f' :: 'a' :: 'l' :: 's' :: 'e' :: rest => some (.bool false, rest)
  | text => number? false text

mutual

/-- Reads a value and gives what follows it.  The fuel bounds the nesting and the
number of items, so the length of the text suffices. -/
def value? : Nat → Text → Option (Json × Text)
  | 0, _ => none
  | fuel + 1, text =>
    match skipSpace text with
    | '[' :: rest =>
      match skipSpace rest with
      | ']' :: rest => some (.arr [], rest)
      | rest => (items? fuel rest).map fun (items, rest) => (.arr items, rest)
    | '\x7b' :: rest =>
      match skipSpace rest with
      | '\x7d' :: rest => some (.obj [], rest)
      | rest => (members? fuel rest).map fun (members, rest) => (.obj members, rest)
    | text => leaf? text

def items? : Nat → Text → Option (List Json × Text)
  | 0, _ => none
  | fuel + 1, text =>
    match value? fuel text with
    | none => none
    | some (item, rest) =>
      match skipSpace rest with
      | ']' :: rest => some ([item], rest)
      | ',' :: rest => (items? fuel rest).map fun (items, rest) => (item :: items, rest)
      | _ => none

def members? : Nat → Text → Option (List (Text × Json) × Text)
  | 0, _ => none
  | fuel + 1, text =>
    match skipSpace text with
    | '"' :: rest =>
      match string? rest with
      | none => none
      | some (name, rest) =>
        match skipSpace rest with
        | ':' :: rest =>
          match value? fuel rest with
          | none => none
          | some (value, rest) =>
            match skipSpace rest with
            | '\x7d' :: rest => some ([(name, value)], rest)
            | ',' :: rest =>
              (members? fuel rest).map fun (members, rest) => ((name, value) :: members, rest)
            | _ => none
        | _ => none
    | _ => none

end

/-- The value that a text writes, with nothing but white space around it.  Numbers of any
size and any depth of nesting are taken. -/
def parse? (text : Text) : Option Json :=
  match value? (text.length + 1) text with
  | some (value, rest) => if (skipSpace rest).isEmpty then some value else none
  | none => none

end DawnServer.Json
