import DawnServer.Script.Token

/-!
# Relative token positions

Semantic tokens are sent relative to the token before them: the difference of the
lines, and on the same line the difference of the columns.  A token that goes back
is sent as if it stood where the last one did.
-/

namespace DawnServer

structure CodedToken where
  line : Nat
  start : Nat
  length : Nat
  type : Nat
  modifiers : Nat
  deriving Repr, DecidableEq

/-- A token with its place relative to the token before it. -/
structure DeltaToken where
  lines : Nat
  columns : Nat
  length : Nat
  type : Nat
  modifiers : Nat
  deriving Repr, DecidableEq

def Token.coded (token : Token) : CodedToken :=
  ⟨token.line, token.start, token.length, token.type.code, TokenModifier.bits token.modifiers⟩

namespace DeltaToken

/-- A token relative to a place.  Differences stop at zero. -/
def relative (line start : Nat) (token : CodedToken) : DeltaToken :=
  { lines := token.line - line
    columns := if token.line - line = 0 then token.start - start else token.start
    length := token.length
    type := token.type
    modifiers := token.modifiers }

def encodeFrom (line start : Nat) : List CodedToken → List DeltaToken
  | [] => []
  | token :: tokens => relative line start token :: encodeFrom token.line token.start tokens

/-- Tokens relative to each other, the first relative to the start of the document. -/
def encode (tokens : List CodedToken) : List DeltaToken := encodeFrom 0 0 tokens

/-- The absolute tokens that relative ones stand for, from a place on: a step to a
later line counts columns from its start. -/
def decodeFrom (line start : Nat) : List DeltaToken → List CodedToken
  | [] => []
  | token :: tokens =>
    let line' := line + token.lines
    let start' := if token.lines = 0 then start + token.columns else token.columns
    ⟨line', start', token.length, token.type, token.modifiers⟩ :: decodeFrom line' start' tokens

def decode (tokens : List DeltaToken) : List CodedToken := decodeFrom 0 0 tokens

def numbers (token : DeltaToken) : List Nat :=
  [token.lines, token.columns, token.length, token.type, token.modifiers]

end DeltaToken

def semanticTokens (table : Table) (spans : SpanLength) (text : Text) : List Nat :=
  (DeltaToken.encode ((Token.classify table spans text).map Token.coded)).flatMap
    DeltaToken.numbers

end DawnServer
