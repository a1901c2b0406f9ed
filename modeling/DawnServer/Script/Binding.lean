import DawnServer.Text.Basic
import DawnServer.Text.Lines

/-!
# Bindings

A binding is `let`, white space, a name, white space, `=`, white space and a value.
White space may run over line breaks, the name and the value may not.  The search
goes from left to right; at each place the runs are as long as they can be, an
earlier run before a later one, and the search goes on where a binding ends.

What begins at a place follows from what begins at the next one, so a single sweep from
the end of the text finds the bindings at all places (`fronts_eq`).
-/

namespace DawnServer

/-- A binding in a text: the runs between and around its fixed parts. -/
structure Binding where
  /-- The white space after `let`. -/
  lead : Text
  name : Text
  /-- The white space before the equals sign. -/
  space : Text
  /-- The white space after the equals sign. -/
  gap : Text
  value : Text
  deriving Repr, DecidableEq

namespace Binding

def keyword : Text := ['l', 'e', 't']

def chars (b : Binding) : Text :=
  keyword ++ b.lead ++ b.name ++ b.space ++ ['='] ++ b.gap ++ b.value

def inLine (c : Char) : Bool := !Text.isBreak c

/-- The longest nonempty run of characters of a class after which `next` succeeds,
with the outcome of `next`. -/
def longest? {α : Type} (belongs : Char → Bool) (next : Text → Option α) :
    Text → Option (Text × α)
  | [] => none
  | c :: text =>
    if belongs c then
      match longest? belongs next text with
      | some (run, a) => some (c :: run, a)
      | none => (next text).map fun a => ([c], a)
    else none

def assigned? : Text → Option (Text × Text)
  | '=' :: text =>
    (longest? Text.isBlank (longest? inLine fun _ => some ()) text).map
      fun (gap, value, _) => (gap, value)
  | _ => none

def runs? : Text → Option (Text × Text × Text × Text × Text) :=
  longest? Text.isBlank (longest? inLine (longest? Text.isBlank assigned?))

/-- The runs of a binding after what is left of its keyword. -/
def runsAfter? (left text : Text) : Option (Text × Text × Text × Text × Text) :=
  match Text.dropLead? left text with
  | some text => runs? text
  | none => none

def ofRuns : Text × Text × Text × Text × Text → Binding
  | (lead, name, space, gap, value) => ⟨lead, name, space, gap, value⟩

def at? (text : Text) : Option Binding := (runsAfter? keyword text).map ofRuns

/-! ## The sweep -/

/-- The run of a class that `longest?` finds one place earlier, at the character `c`. -/
def grow {α : Type} (belongs : Char → Bool) (c : Char) (run : Option (Text × α))
    (next : Option α) : Option (Text × α) :=
  if belongs c then
    match run with
    | some (run, a) => some (c :: run, a)
    | none => next.map fun a => ([c], a)
  else none

/-- The parts of bindings that begin at one place. -/
structure Parts where
  value : Option (Text × Unit)
  gap : Option (Text × Text × Unit)
  assigned : Option (Text × Text)
  space : Option (Text × Text × Text)
  name : Option (Text × Text × Text × Text)
  lead : Option (Text × Text × Text × Text × Text)
  one : Option (Text × Text × Text × Text × Text)
  two : Option (Text × Text × Text × Text × Text)
  whole : Option (Text × Text × Text × Text × Text)

def Parts.of (text : Text) : Parts where
  value := longest? inLine (fun _ => some ()) text
  gap := longest? Text.isBlank (longest? inLine fun _ => some ()) text
  assigned := assigned? text
  space := longest? Text.isBlank assigned? text
  name := longest? inLine (longest? Text.isBlank assigned?) text
  lead := runs? text
  one := runsAfter? ['t'] text
  two := runsAfter? ['e', 't'] text
  whole := runsAfter? keyword text

def Parts.empty : Parts := ⟨none, none, none, none, none, none, none, none, none⟩

/-- The parts that begin one place earlier, at the character `c`. -/
def Parts.before (c : Char) (parts : Parts) : Parts where
  value := grow inLine c parts.value (some ())
  gap := grow Text.isBlank c parts.gap parts.value
  assigned :=
    if c = '=' then parts.gap.map fun (gap, value, _) => (gap, value) else none
  space := grow Text.isBlank c parts.space parts.assigned
  name := grow inLine c parts.name parts.space
  lead := grow Text.isBlank c parts.lead parts.name
  one := if 't' = c then parts.lead else none
  two := if 'e' = c then parts.one else none
  whole := if 'l' = c then parts.two else none

/-- The parts at the front of a text, and the bindings at all its places. -/
def sweep (text : Text) : Parts × List (Option Binding) :=
  text.foldr
    (fun c (parts, found) =>
      let parts := parts.before c
      (parts, parts.whole.map ofRuns :: found))
    (Parts.empty, [])

def fronts (text : Text) : List (Option Binding) := (sweep text).2

theorem longest?_cons {α : Type} (belongs : Char → Bool) (next : Text → Option α) (c : Char)
    (text : Text) :
    longest? belongs next (c :: text) =
      grow belongs c (longest? belongs next text) (next text) := rfl

theorem assigned?_cons (c : Char) (text : Text) :
    assigned? (c :: text) =
      if c = '=' then
        (longest? Text.isBlank (longest? inLine fun _ => some ()) text).map
          fun (gap, value, _) => (gap, value)
      else none := by
  by_cases h : c = '='
  · simp [h, assigned?]
  · rw [if_neg h]
    unfold assigned?
    split
    · simp_all
    · rfl

theorem runsAfter?_cons (k : Char) (left : Text) (c : Char) (text : Text) :
    runsAfter? (k :: left) (c :: text) = if k = c then runsAfter? left text else none := by
  by_cases h : k = c <;> simp [runsAfter?, Text.dropLead?, h]

theorem Parts.of_cons (c : Char) (text : Text) :
    Parts.of (c :: text) = (Parts.of text).before c := by
  have after_nil : runsAfter? [] text = runs? text := rfl
  simp [Parts.of, Parts.before, longest?_cons, assigned?_cons, runsAfter?_cons, after_nil,
    keyword, runs?]

theorem sweep_eq (text : Text) : (sweep text).1 = Parts.of text := by
  induction text with
  | nil => rfl
  | cons c text ih => rw [Parts.of_cons, ← ih]; rfl

theorem fronts_cons (c : Char) (text : Text) :
    fronts (c :: text) = at? (c :: text) :: fronts text := by
  have h := sweep_eq (c :: text)
  unfold fronts at?
  change ((sweep (c :: text)).1.whole.map ofRuns) :: (sweep text).2 = _
  rw [h]
  rfl

theorem fronts_eq (text : Text) :
    fronts text = (List.range text.length).map fun i => at? (text.drop i) := by
  induction text with
  | nil => rfl
  | cons c text ih =>
    rw [fronts_cons, ih, List.length_cons, List.range_succ_eq_map]
    simp [Function.comp_def]

/-! ## The search -/

/-- The bindings that are found after `covered` more places, which belong to a binding
found before. -/
def pick : Nat → List (Option Binding) → List Binding
  | _, [] => []
  | covered + 1, _ :: rest => pick covered rest
  | 0, some b :: rest => b :: pick (b.chars.length - 1) rest
  | 0, none :: rest => pick 0 rest

/-- The bindings of a text, from left to right. -/
def find (text : Text) : List Binding := pick 0 (fronts text)

end Binding

/-- The names that a text binds, in order and with repetitions, without white space
around them. -/
def boundNames (text : Text) : List Text :=
  (Binding.find text).map fun b => Text.trim b.name

end DawnServer
