import DawnServer.Text.Lines
import DawnServer.Text.Units

/-!
# Documents

An open document is a text with a version.  Edits come in batches: a batch with a
newer version is applied change by change, any other is refused as a whole.

A change names its range by positions, lines and columns in UTF-16 code units.  Every
position means a place between two characters: a line past the last means the end of the
document, a column past the content of its line means the end of that content, and a
column inside a surrogate pair means the start of the pair.
-/

namespace DawnServer

/-- A line and a column, both counted from zero. -/
structure Position where
  line : UInt32
  column : UInt32
  deriving Repr, DecidableEq

structure Range where
  start : Position
  stop : Position
  deriving Repr, DecidableEq

/-- A line and a column as indices of any size. -/
structure Place where
  line : Nat
  column : Nat
  deriving Repr, DecidableEq

def Place.offsetIn (column : Nat) : Nat → List Text.Line → Nat
  | _, [] => 0
  | 0, line :: _ => Text.charsWithin column (Text.withoutBreak line.chars)
  | n + 1, line :: lines => line.chars.length + offsetIn column n lines

def Place.offset (place : Place) (text : Text) : Nat :=
  offsetIn place.column place.line (Text.lines text)

def Position.place (position : Position) : Place := ⟨position.line, position.column⟩

/-- The number of characters of a text before a position. -/
def Position.offset (position : Position) (text : Text) : Nat := position.place.offset text

/-- A change of a document: new text for a range, or for everything. -/
structure Change where
  range : Option Range
  text : Text
  deriving Repr, DecidableEq

structure Document where
  text : Text
  version : Int
  deriving Repr, DecidableEq

/-- A batch whose version is not newer than that of the document. -/
structure StaleVersion where
  offered : Int
  held : Int
  deriving Repr, DecidableEq

def StaleVersion.message (stale : StaleVersion) : Text :=
  "Version ".toList ++ Text.ofInt stale.offered ++ " not newer than ".toList ++
    Text.ofInt stale.held

namespace Document

/-- Puts new text in place of what lies between two offsets, whichever comes first. -/
def splice (text : Text) (a b : Nat) (replacement : Text) : Text :=
  text.take (min a b) ++ replacement ++ text.drop (max a b)

def edit (text : Text) (change : Change) : Text :=
  match change.range with
  | none => change.text
  | some range => splice text (range.start.offset text) (range.stop.offset text) change.text

/-- Applies a batch of changes, each to the outcome of the one before it. -/
def apply (document : Document) (changes : List Change) (version : Int) :
    Except StaleVersion Document :=
  if version ≤ document.version then .error ⟨version, document.version⟩
  else .ok ⟨changes.foldl edit document.text, version⟩

end Document

end DawnServer
