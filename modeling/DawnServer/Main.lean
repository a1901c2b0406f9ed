import DawnServer.CommandLine.Run
import DawnServer.Json.Parser
import DawnServer.Protocol.Message
import DawnServer.Session.Reading
import DawnServer.SessionLog

/-!
# The program

Carries a command line out over the standard streams and the files of the machine.
What to answer, what to read and what to remove is decided elsewhere; this module
only reads, writes and removes.
-/

namespace DawnServer.Program

def readError : IO.Error → ReadError
  | .permissionDenied .. => .denied
  | .inappropriateType _ code _ => if code = 21 then .isDirectory else .notDirectory
  | .invalidArgument _ code _ => if code = 36 then .nameTooLong else .missing
  | _ => .missing

def readText (path : List UInt8) : IO (Except ReadError Text) := do
  let some name := Utf8.decode? path | return .error .missing
  if path.contains 0 then return .error .zeroByte
  match ← (IO.FS.readBinFile (String.ofList name)).toBaseIO with
  | .error error => return .error (readError error)
  | .ok bytes =>
    match Utf8.decode? bytes.toList with
    | some text => return .ok text
    | none => return .error .notText

/-- A reader that knows one file, read beforehand. -/
def readerOf (path? : Option (List UInt8)) : IO FileReader := do
  match path? with
  | none => return fun _ => .error .missing
  | some path =>
    let outcome ← readText path
    return fun _ => outcome

partial def readHeader (input : IO.FS.Stream) (length? : Option Nat) : IO (Option Nat) := do
  let line ← input.getLine
  if line.isEmpty then return none
  let field := line.toList
  if (Text.trim field).isEmpty then return length?
  readHeader input ((Frame.length? field).or length?)

partial def readBytes (input : IO.FS.Stream) (length : Nat) (bytes : ByteArray) :
    IO ByteArray := do
  if length ≤ bytes.size then return bytes
  let more ← input.read (length - bytes.size).toUSize
  if more.isEmpty then return bytes
  readBytes input length (bytes ++ more)

/-- Reads a message.  One that cannot be understood is skipped. -/
partial def readMessage (input : IO.FS.Stream) : IO (Option Message) := do
  let some length ← readHeader input none | return none
  let bytes ← readBytes input length .empty
  match Utf8.decode? bytes.toList >>= Json.parse? >>= Message.ofJson? with
  | some message => return some message
  | none => readMessage input

/-- Takes the messages of a client until it leaves or closes the stream. -/
partial def serve (input output : IO.FS.Stream) (session : Session) : IO Unit := do
  let some message ← readMessage input | return
  let files ← readerOf (session.wantedPath? message)
  let some turn := session.turn? files message | return
  for frame in RunResult.framesOf turn do
    output.write (Frame.encode frame).toByteArray
  output.flush
  if turn.session.phase ≠ .ended then serve input output turn.session

def logDirectory : IO (Option String) := do
  if let some cache ← IO.getEnv "XDG_CACHE_HOME" then
    if cache.startsWith "/" then return some (cache ++ "/dawn-language-server")
  return (← IO.getEnv "HOME").map (· ++ "/.cache/dawn-language-server")

def nanoseconds (time : IO.FS.SystemTime) : Int := time.sec * 1000000000 + time.nsec.toNat

def logEntry (entry : IO.FS.DirEntry) : IO LogEntry := do
  let name := Utf8.encode entry.fileName.toList
  match ← entry.path.symlinkMetadata.toBaseIO with
  | .error _ => return ⟨name, none, none⟩
  | .ok metadata =>
    let kind : EntryKind :=
      match metadata.type with
      | .file => .file
      | .dir => .directory
      | .symlink => .link
      | .other => .other
    return ⟨name, some kind, some (nanoseconds metadata.modified)⟩

/-- Begins the log of this process, whose first change tells the time, and removes the
logs that are too old by then. -/
def startLog (directory : String) : IO Unit := do
  IO.FS.createDirAll directory
  let path := directory ++ "/session-" ++ toString (← IO.monoNanosNow) ++ ".log"
  IO.FS.writeFile path "Starting Dawn language server 0.1.0\n"
  IO.eprintln ("Logging to file: " ++ path)
  let now := nanoseconds (← (System.mkFilePath [path]).metadata).modified
  for entry in ← (System.mkFilePath [directory]).readDir do
    if SessionLog.isExpired now (← logEntry entry) then
      if let .error error ← (IO.FS.removeFile entry.path).toBaseIO then
        IO.eprintln ("Failed to remove old log file: " ++ toString error)

def finish (result : RunResult) : IO UInt32 := do
  IO.print (String.ofList result.output)
  IO.eprint (String.ofList result.errors)
  return result.exitCode.toUInt32

def serveStandardStreams (line : CommandLine) (environment : Option Text) : IO UInt32 := do
  if !line.has .noFileLogging then
    let some directory ← logDirectory
      | IO.eprintln "Error: unable to determine the user's cache directory"; return 1
    startLog directory
  let settings := line.settings environment
  let files ← readerOf settings.wantedPath?
  serve (← IO.getStdin) (← IO.getStdout) (Session.start files settings)
  return 0

end DawnServer.Program

open DawnServer DawnServer.Program in
def main (arguments : List String) : IO UInt32 := do
  match CommandLine.parse (arguments.map String.toList) with
  | .error interruption => finish (.interrupted interruption)
  | .ok line =>
    match line.printed with
    | some path =>
      let files ← readerOf (some (Utf8.encode path))
      finish (.printing files path)
    | none =>
      if line.has .socket then
        IO.eprintln "Error: sockets are not supported"
        return 1
      let environment := (← IO.getEnv "DAWN_DIAGNOSTICS").map String.toList
      serveStandardStreams line environment
