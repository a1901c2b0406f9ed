import DawnServer.Text.Basic

/-!
# Lines

A line ends at `\r\n`, at a lone `\r`, at a lone `\n`, or with the text.  A text
with `n` breaks has `n + 1` lines, so a break at the end of a text is followed by
an empty line.  No other character breaks a line.

Documents are edited by their lines with the breaks (`lines`); scripts are read by
the contents alone, which one scan of the text finds (`lineContents`).
-/

namespace DawnServer.Text

/-- What stands at the end of a line. -/
inductive Break where
  /-- The end of the text. -/
  | none
  | lf
  | cr
  | crlf
  deriving Repr, DecidableEq

def Break.chars : Break → Text
  | .none => []
  | .lf => ['\n']
  | .cr => ['\r']
  | .crlf => ['\r', '\n']

/-- A line of a text: its content and the break that ends it. -/
structure Line where
  content : Text
  ending : Break
  deriving Repr, DecidableEq

def Line.chars (line : Line) : Text := line.content ++ line.ending.chars

def isBreak (c : Char) : Bool := c == '\r' || c == '\n'

def pushLine (c : Char) : List Line → List Line
  | [] => [⟨[c], .none⟩]
  | line :: lines => ⟨c :: line.content, line.ending⟩ :: lines

def lines : Text → List Line
  | [] => [⟨[], .none⟩]
  | '\r' :: '\n' :: text => ⟨[], .crlf⟩ :: lines text
  | '\r' :: text => ⟨[], .cr⟩ :: lines text
  | '\n' :: text => ⟨[], .lf⟩ :: lines text
  | c :: text => pushLine c (lines text)

/-- A line without its break: a line feed at its end goes, and then a carriage return. -/
def withoutBreak (chars : Text) : Text := dropLastOf '\r' (dropLastOf '\n' chars)

/-- The contents of the lines of a text behind the characters `done` of its first line,
which stand in reverse order. -/
def contentsFrom (done : Text) : Text → List Text
  | [] => [done.reverse]
  | '\r' :: '\n' :: text => done.reverse :: contentsFrom [] text
  | c :: text =>
    if isBreak c then done.reverse :: contentsFrom [] text else contentsFrom (c :: done) text

def lineContents (text : Text) : List Text := contentsFrom [] text

theorem lines_ne_nil (text : Text) : lines text ≠ [] := by
  fun_cases lines text <;> simp
  next c text _ _ _ => cases lines text <;> simp [pushLine]

end DawnServer.Text
