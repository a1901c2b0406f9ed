import DawnServer.CommandLine.Parser
import DawnServer.Session.Run

/-!
# Carrying a command line out

The program either shows something and stops, or prints a framework file, or serves a
session over its standard streams until the client closes them.
-/

namespace DawnServer

/-- What a run of the program leaves behind. -/
structure RunResult where
  exitCode : Nat
  /-- The text on standard output, where it is not a session. -/
  output : Text
  /-- The text on standard error, where it is not a log. -/
  errors : Text
  frames : List Json
  logs : Nat

namespace RunResult

def usageLine : Text := "Usage: dawn-language-server [OPTIONS] [COMMAND]\n".toList

def interrupted : Interruption → RunResult
  | .help => ⟨0, usageLine, [], [], 0⟩
  | .version => ⟨0, versionLine, [], [], 0⟩
  | _ => ⟨2, [], usageLine, [], 0⟩

def failed (error : FrameworkError) : RunResult :=
  let cause :=
    match error with
    | .unreadable _ cause => "\n\nCaused by:\n    ".toList ++ cause.message.toList
    | .notLocal _ => []
  ⟨1, [], "Error: ".toList ++ error.message ++ cause ++ ['\n'], [], 0⟩

def printing (files : FileReader) (path : Text) : RunResult :=
  match Table.payload files (Utf8.encode path) with
  | .ok payload => ⟨0, payload ++ ['\n'], [], [], 0⟩
  | .error error => failed error

/-- What the server sends in a turn: notifications, and the reply after them. -/
def framesOf (turn : Turn) : List Json :=
  turn.sent.map ServerNotice.toJson ++ (turn.reply.map Reply.toJson).toList

def serve (files : FileReader) (session : Session) : List Message → List Json
  | [] => []
  | message :: messages =>
    match session.turn? files message with
    | none => []
    | some turn => framesOf turn ++ serve files turn.session messages

def serving (files : FileReader) (line : CommandLine) (environment : Option Text)
    (messages : List Message) : RunResult :=
  let session := Session.start files (line.settings environment)
  ⟨0, [], [], serve files session messages, if line.has .noFileLogging then 0 else 1⟩

end RunResult

/-- Carries a command line out. -/
def CommandLine.run (files : FileReader) (arguments : List Text) (environment : Option Text)
    (messages : List Message) : RunResult :=
  match CommandLine.parse arguments with
  | .error interruption => .interrupted interruption
  | .ok line =>
    match line.printed with
    | some path => .printing files path
    | none => .serving files line environment messages

end DawnServer
