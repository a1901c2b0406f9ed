import DawnServer.Text.Case

/-!
# Diagnostics

The language has no validation yet.  A document is either marked with one fixed
warning, which shows that diagnostics arrive, or not marked at all.
-/

namespace DawnServer

inductive DiagnosticsMode where
  | placeholder
  | off
  deriving Repr, DecidableEq

/-- A diagnostic on the first line of a document. -/
structure Diagnostic where
  firstColumn : Nat
  endColumn : Nat
  severity : Nat
  source : Text
  message : Text
  deriving Repr, DecidableEq

namespace DiagnosticsMode

def name : DiagnosticsMode → String
  | .placeholder => "placeholder"
  | .off => "off"

def unknownMessage (word : Text) : Text :=
  "unknown diagnostics mode '".toList ++ word ++ ['\'']

/-- Reads a mode, whatever the white space around it and the case of its letters.  The
error is the word that names no mode. -/
def parse (text : Text) : Except Text DiagnosticsMode :=
  let word := Text.lower (Text.trim text)
  if word = "placeholder".toList then .ok .placeholder
  else if word = "off".toList ∨ word = "none".toList then .ok .off
  else .error word

def placeholderWarning : Diagnostic :=
  ⟨0, 10, 2, "dawn".toList, "Something is wrong here".toList⟩

def diagnose (mode : DiagnosticsMode) (_text : Text) : List Diagnostic :=
  match mode with
  | .placeholder => [placeholderWarning]
  | .off => []

end DiagnosticsMode

end DawnServer
