import DawnServer.CommandLine.Basic

/-!
# Reading arguments

Arguments are read from left to right.  A setting takes its value from the same
argument after an equals sign or from the next one, and is checked when the next
option is met or when the arguments end; so of two faults the one found first counts.
Conflicts between options are looked at last.
-/

namespace DawnServer

inductive OptionName where
  | flag (flag : Flag)
  | setting (setting : Setting)
  | help
  | version
  deriving DecidableEq

def OptionName.table : List (Text × OptionName) := [
  ("stdio".toList, .flag .stdio),
  ("socket".toList, .flag .socket),
  ("port".toList, .setting .port),
  ("framework".toList, .setting .framework),
  ("exact-span-lengths".toList, .flag .exactSpans),
  ("diagnostics".toList, .setting .diagnostics),
  ("log-level".toList, .setting .logLevel),
  ("no-color".toList, .flag .noColor),
  ("no-file-logging".toList, .flag .noFileLogging),
  ("help".toList, .help),
  ("version".toList, .version)]

/-- The pairs of options that exclude each other. -/
def OptionName.conflicts : List (OptionName × OptionName) := [(.flag .stdio, .flag .socket)]

/-- The options that require another one, which stands behind them. -/
def OptionName.requirements : List (OptionName × OptionName) := [(.setting .port, .flag .socket)]

namespace CommandLine

def Given (line : CommandLine) : OptionName → Prop
  | .flag flag => line.has flag = true
  | .setting .port => line.port.isSome = true
  | .setting .framework => line.framework.isSome = true
  | .setting .diagnostics => line.diagnostics.isSome = true
  | .setting .logLevel => line.logLevel.isSome = true
  | .help => False
  | .version => False

instance (line : CommandLine) : (name : OptionName) → Decidable (line.Given name)
  | .flag _ => decEq _ true
  | .setting .port => decEq _ true
  | .setting .framework => decEq _ true
  | .setting .diagnostics => decEq _ true
  | .setting .logLevel => decEq _ true
  | .help => .isFalse id
  | .version => .isFalse id

/-- An option that has been given excludes another. -/
def Excludes (line : CommandLine) (name : OptionName) : Prop :=
  ∃ pair ∈ OptionName.conflicts,
    pair.1 = name ∧ line.Given pair.2 ∨ pair.2 = name ∧ line.Given pair.1

instance (line : CommandLine) (name : OptionName) : Decidable (line.Excludes name) :=
  inferInstanceAs (Decidable (∃ pair ∈ OptionName.conflicts, _))

end CommandLine

/-- An argument by its form. -/
inductive Argument where
  /-- Two hyphens, after which no options follow. -/
  | separator
  | long (name : Text) (value : Option Text)
  /-- Short options, the first of which is given. -/
  | short (letter : Char)
  | plain

/-- The form of an argument.  A lone hyphen is no option. -/
def Argument.ofText : Text → Argument
  | ['-', '-'] => .separator
  | '-' :: '-' :: text => .long (Text.cut '=' text).1 (Text.cut '=' text).2
  | '-' :: c :: _ => .short c
  | _ => .plain

/-- Arguments under reading: what has been chosen, and the setting that was met last
with the value that followed it. -/
structure ArgumentReader where
  line : CommandLine
  pending : Option (Setting × Option Text)

namespace ArgumentReader

def integer? (text : Text) : Option Int :=
  match text with
  | '+' :: digits => (Text.number? 10 digits).map Int.ofNat
  | '-' :: digits => (Text.number? 10 digits).map fun n => -(n : Int)
  | digits => (Text.number? 10 digits).map Int.ofNat

def port? (value : Text) : Option Nat :=
  match integer? value with
  | some n => if 0 ≤ n ∧ n < 65536 then some n.toNat else none
  | none => none

def give (line : CommandLine) (setting : Setting) (value : Text) :
    Except Interruption CommandLine :=
  match setting with
  | .port =>
    if line.port.isSome then .error .argumentConflict
    else
      match port? value with
      | some port => .ok { line with port := some port }
      | none => .error .valueValidation
  | .framework =>
    if line.framework.isSome then .error .argumentConflict
    else if value.isEmpty then .error .invalidValue
    else .ok { line with framework := some value }
  | .diagnostics =>
    if line.diagnostics.isSome then .error .argumentConflict
    else
      match DiagnosticsMode.parse value with
      | .ok mode => .ok { line with diagnostics := some mode }
      | .error _ => .error .valueValidation
  | .logLevel =>
    if line.logLevel.isSome then .error .argumentConflict
    else .ok { line with logLevel := some value }

/-- Gives the pending setting its value; one without a value is an error. -/
def settle (reader : ArgumentReader) : Except Interruption CommandLine :=
  match reader.pending with
  | none => .ok reader.line
  | some (_, none) => .error .invalidValue
  | some (setting, some value) => give reader.line setting value

def awaits (reader : ArgumentReader) : Bool :=
  match reader.pending with
  | some (_, none) => true
  | _ => false

def takeOption (reader : ArgumentReader) (name : OptionName) (value : Option Text) :
    Except Interruption ArgumentReader :=
  match name, value with
  | .setting setting, some value => do
    let line ← reader.settle
    return ⟨← give line setting value, none⟩
  | .setting setting, none => do return ⟨← reader.settle, some (setting, none)⟩
  | _, some _ => .error .tooManyValues
  | .flag flag, none => do
    let line ← reader.settle
    if line.has flag then throw .argumentConflict
    return ⟨{ line with flags := line.flags ++ [flag] }, none⟩
  | .help, none => do
    let _ ← reader.settle
    throw .help
  | .version, none => do
    let _ ← reader.settle
    throw .version

def shortOption? (letter : Char) : Option OptionName :=
  if letter = 'h' then some .help else if letter = 'V' then some .version else none

/-- Checks what the options mean together.  No two that exclude each other may have been
given.  What one requires has to be given too, but it is not asked for if another option that
has been given excludes it. -/
def check (line : CommandLine) : Except Interruption CommandLine :=
  if ∃ pair ∈ OptionName.conflicts, line.Given pair.1 ∧ line.Given pair.2 then
    .error .argumentConflict
  else if ∃ pair ∈ OptionName.requirements,
      line.Given pair.1 ∧ ¬ line.Given pair.2 ∧ ¬ line.Excludes pair.2 then
    .error .missingArgument
  else .ok line

def printName : Text := "framework".toList

def helpName : Text := "help".toList

def isSubcommand (text : Text) : Bool := text == printName || text == helpName

def helpOutcome : List Text → Interruption
  | [] => .help
  | [name] => if isSubcommand name then .help else .invalidSubcommand
  | _ => .invalidSubcommand

def printedPath (path : Option Text) : Except Interruption Text :=
  match path with
  | none => .error .missingArgument
  | some path => if path.isEmpty then .error .invalidValue else .ok path

/-- Reads the arguments of the printing subcommand: one path, and no options but the
one for help. -/
def readPath (separated : Bool) (path : Option Text) : List Text → Except Interruption Text
  | [] => printedPath path
  | argument :: arguments =>
    let form := if separated then .plain else Argument.ofText argument
    let helpWith := fun value : Option Text =>
      if value.isSome then Interruption.tooManyValues
      else if path = some [] then .invalidValue
      else .help
    match form with
    | .separator => readPath true path arguments
    | .long name value =>
      if name = helpName then .error (helpWith value) else .error .unknownArgument
    | .short letter => if letter = 'h' then .error (helpWith none) else .error .unknownArgument
    | .plain =>
      match path with
      | none => readPath separated (some argument) arguments
      | some _ => .error .unknownArgument

/-- Ends the reading after two hyphens.  No argument may follow them. -/
def readSeparated (reader : ArgumentReader) : List Text → Except Interruption CommandLine
  | [] => reader.settle >>= check
  | argument :: _ =>
    .error (if isSubcommand argument then .unknownArgument else .invalidSubcommand)

def read (reader : ArgumentReader) : List Text → Except Interruption CommandLine
  | [] => reader.settle >>= check
  | argument :: arguments =>
    if !reader.awaits && argument == helpName then .error (helpOutcome arguments)
    else if !reader.awaits && argument == printName then do
      let path ← readPath false none arguments
      let line ← reader.settle
      check { line with printed := some path }
    else
      match Argument.ofText argument with
      | .separator => reader.readSeparated arguments
      | .long name value =>
        match OptionName.table.lookup name with
        | none => .error .unknownArgument
        | some option => do (← reader.takeOption option value).read arguments
      | .short letter =>
        match shortOption? letter with
        | none => .error .unknownArgument
        | some option => do (← reader.takeOption option none).read arguments
      | .plain =>
        match reader.pending with
        | some (setting, none) => read ⟨reader.line, some (setting, some argument)⟩ arguments
        | _ => .error .invalidSubcommand

end ArgumentReader

/-- What the arguments of the program choose. -/
def CommandLine.parse (arguments : List Text) : Except Interruption CommandLine :=
  ArgumentReader.read ⟨CommandLine.empty, none⟩ arguments

end DawnServer
