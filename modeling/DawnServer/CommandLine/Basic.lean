import DawnServer.Diagnostics
import DawnServer.Session.State

/-!
# The command line

What the arguments of the program choose, and why a command line is not carried out.
-/

namespace DawnServer

inductive Flag where
  | stdio
  | socket
  | exactSpans
  | noColor
  | noFileLogging
  deriving Repr, DecidableEq

inductive Setting where
  | port
  | framework
  | diagnostics
  | logLevel
  deriving Repr, DecidableEq

/-- What the arguments choose.  A missing setting was not given. -/
structure CommandLine where
  flags : List Flag
  port : Option Nat
  framework : Option Text
  diagnostics : Option DiagnosticsMode
  logLevel : Option Text
  /-- The path of a framework file to print instead of serving. -/
  printed : Option Text
  deriving Repr, DecidableEq

/-- Why a command line is not carried out. -/
inductive Interruption where
  | unknownArgument
  | invalidSubcommand
  | argumentConflict
  | missingArgument
  | invalidValue
  | valueValidation
  | tooManyValues
  | help
  | version
  deriving Repr, DecidableEq

def Interruption.name : Interruption → String
  | .unknownArgument => "UnknownArgument"
  | .invalidSubcommand => "InvalidSubcommand"
  | .argumentConflict => "ArgumentConflict"
  | .missingArgument => "MissingRequiredArgument"
  | .invalidValue => "InvalidValue"
  | .valueValidation => "ValueValidation"
  | .tooManyValues => "TooManyValues"
  | .help => "DisplayHelp"
  | .version => "DisplayVersion"

def versionLine : Text := "dawn-language-server 0.1.0\n".toList

namespace CommandLine

def empty : CommandLine := ⟨[], none, none, none, none, none⟩

def has (line : CommandLine) (flag : Flag) : Bool := line.flags.contains flag

def portNumber (line : CommandLine) : Nat := line.port.getD 41551

/-- The diagnostics to publish: those that the environment names, if it names any, then
those of the arguments. -/
def diagnosticsMode (line : CommandLine) (environment : Option Text) : DiagnosticsMode :=
  match environment.map DiagnosticsMode.parse with
  | some (.ok mode) => mode
  | _ => line.diagnostics.getD .placeholder

def settings (line : CommandLine) (environment : Option Text) : Settings :=
  { frameworkPath := line.framework.map Utf8.encode
    spans := if line.has .exactSpans then .exact else .wholeLine
    diagnostics := line.diagnosticsMode environment }

end CommandLine

end DawnServer
