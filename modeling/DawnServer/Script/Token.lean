import DawnServer.Framework.Table
import DawnServer.Script.Binding
import DawnServer.Script.Legend
import DawnServer.Text.Lines
import DawnServer.Text.Units

/-!
# Words and tokens

The words of a line are its longest stretches without a space; no other character
parts words.  Every word of a document is a token.  Its class depends on its spelling, on
the framework table and on the names that the document binds, and on nothing else.

Lines, columns and lengths in UTF-16 code units are numbers of 32 bits, and what is too
large for them wraps.
-/

namespace DawnServer

/-- A word of a line, its column and its length. -/
structure Word where
  text : Text
  start : UInt32
  length : UInt32
  deriving Repr, DecidableEq

namespace Word

/-- The nonempty pieces among those that start at the given column, one space after
the other. -/
def placed (column : UInt32) : List Text → List Word
  | [] => []
  | piece :: pieces =>
    let length := Text.units32 piece
    let rest := placed (column + (length + 1)) pieces
    if 0 < length then ⟨piece, column, length⟩ :: rest else rest

def ofLine (line : Text) : List Word := placed 0 (line.splitOn ' ')

/-- The name that a word carries: without white space around it, and then without
one opening parenthesis at the front and one closing parenthesis at the end. -/
def bareName (word : Text) : Text :=
  Text.dropLastOf ')' (Text.dropFirst '(' (Text.trim word))

end Word

structure WordClass where
  type : TokenType
  modifiers : List TokenModifier
  deriving Repr, DecidableEq

/-- How long the last word of a line is reported to be. -/
inductive SpanLength where
  | wholeLine
  | exact
  deriving Repr, DecidableEq

structure Token where
  line : UInt32
  start : UInt32
  length : UInt32
  type : TokenType
  modifiers : List TokenModifier
  deriving Repr, DecidableEq

namespace WordClass

def coreKeywords : List Text := ["forever".toList, "scope".toList]

/-- The class of a word.  The first of these that fits counts: the equals sign, a
keyword of the language, a function of the framework, a name that the document
binds, a variable of the framework, a keyword of the framework. -/
def ofWord (table : Table) (bound : List Text) (word : Text) : WordClass :=
  let name := Word.bareName word
  if name = ['='] then ⟨.operator, []⟩
  else if name ∈ coreKeywords then ⟨.keyword, []⟩
  else if name ∈ table.funcs then ⟨.function, []⟩
  else if name ∈ bound then ⟨.variableName, []⟩
  else if name ∈ table.vars then ⟨.variableName, [.readonly]⟩
  else if name ∈ table.keywords then ⟨.otherKeyword, []⟩
  else ⟨.label, []⟩

end WordClass

namespace Token

/-- The tokens of the words of a line, of which `lineLength` is the length to report
for the last one where that is not its own. -/
def ofWords (classOf : Text → WordClass) (line : UInt32) (lineLength : Option UInt32) :
    List Word → List Token
  | [] => []
  | [word] =>
    let c := classOf word.text
    [⟨line, word.start, lineLength.getD word.length, c.type, c.modifiers⟩]
  | word :: words =>
    let c := classOf word.text
    ⟨line, word.start, word.length, c.type, c.modifiers⟩ ::
      ofWords classOf line lineLength words

def ofLines (classOf : Text → WordClass) (spans : SpanLength) (line : Nat) :
    List Text → List Token
  | [] => []
  | content :: contents =>
    let lineLength :=
      match spans with
      | .wholeLine => some (Text.units32 content)
      | .exact => none
    ofWords classOf (.ofNat line) lineLength (Word.ofLine content) ++
      ofLines classOf spans (line + 1) contents

/-- The tokens of a document, line by line and from left to right. -/
def classify (table : Table) (spans : SpanLength) (text : Text) : List Token :=
  ofLines (WordClass.ofWord table (boundNames text)) spans 0 (Text.lineContents text)

end Token

end DawnServer
