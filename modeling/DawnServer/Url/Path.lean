import DawnServer.Url.Basic

/-!
# Paths of URLs

A hierarchical path is built segment by segment.  A dot segment adds nothing, a
double-dot segment takes the last segment away, and both count in their encoded
spellings too.  For files a first segment that is a drive letter stays put.  Tabs and
line breaks are no part of a segment, but one that follows a drive ends it.
-/

namespace DawnServer.Url

/-! ## Breaks -/

/-- Whether a character is a tab or a line break, which do not count in a URL. -/
def isBreak (c : Char) : Bool := c == '\t' || c == '\n' || c == '\r'

def withoutBreaks (text : Text) : Text := text.filter fun c => !isBreak c

def next? (text : Text) : Option (Char × Text) :=
  match text.dropWhile isBreak with
  | [] => none
  | c :: rest => some (c, rest)

/-! ## Segments -/

def isDot (segment : Text) : Bool :=
  [".".toList, "%2e".toList].contains (Text.asciiLower segment)

def isDoubleDot (segment : Text) : Bool :=
  ["..".toList, "%2e.".toList, ".%2e".toList, "%2e%2e".toList].contains (Text.asciiLower segment)

def isDrive : Text → Bool
  | [c, d] => c.isAlpha && (d == ':' || d == '|')
  | _ => false

def isNormalDrive : Text → Bool
  | [c, ':'] => c.isAlpha
  | _ => false

/-- A drive with a colon that a break parts from the rest of its segment, and that rest. -/
def partedDrive? (segment : Text) : Option (Text × Text) := do
  let (letter, afterLetter) ← next? segment
  let (colon, afterColon) ← next? afterLetter
  let rest := withoutBreaks afterColon
  if isNormalDrive [letter, colon] && afterColon.head?.any isBreak && !rest.isEmpty then
    some ([letter, colon], rest)
  else none

def leadsToDrive : Text → Bool
  | [_, c, d] => c.isAlpha && (d == ':' || d == '|')
  | _ :: c :: d :: e :: _ =>
    c.isAlpha && (d == ':' || d == '|') && (e == '/' || e == '\\' || e == '?' || e == '#')
  | _ => false

def cutLastSlash (path : Text) : Text × Text :=
  let tail := (path.reverse.takeWhile (· ≠ '/')).reverse
  (path.take (path.length - tail.length), tail)

/-- Removes the slash at the end of a path unless it is the first one or closes a
drive. -/
def withoutLastSlash (path : Text) : Text :=
  match Text.dropLast? '/' path with
  | none => path
  | some front =>
    let (before, segment) := cutLastSlash front
    if before.isEmpty || leadsToDrive ('/' :: (segment ++ ['/'])) then path else front

/-- Removes the last segment of a path, which is not a drive of a file. -/
def withoutLastSegment (isFile : Bool) (path : Text) : Text :=
  let (front, segment) := cutLastSlash path
  if isFile && isNormalDrive segment then path else front

def closed (path : Text) : Text := if path.getLast? = some '/' then path else path ++ ['/']

/-- A path under construction; a host that a drive has displaced is no host. -/
structure PathBuilder where
  path : Text
  displaced : Bool

def PathBuilder.add (isFile : Bool) (builder : PathBuilder) (segment : Text) (ended : Bool) :
    PathBuilder :=
  let slash := if ended then ['/'] else []
  if isDoubleDot segment then
    let path := withoutLastSegment isFile (withoutLastSlash builder.path)
    { builder with path := if ended then closed path else path }
  else if isDot segment then { builder with path := closed builder.path }
  else if isFile && builder.path == ['/'] then
    match segment with
    | [c, d] =>
      if isDrive [c, d] then ⟨'/' :: c :: ':' :: slash, true⟩
      else { builder with path := builder.path ++ segment ++ slash }
    | _ => { builder with path := builder.path ++ segment ++ slash }
  else { builder with path := builder.path ++ segment ++ slash }

/-- Adds a segment as it is written.  A first segment of a file whose drive a break has
parted from the rest takes a slash there, and stands as it is. -/
def PathBuilder.addWritten (isFile : Bool) (builder : PathBuilder) (segment : Text)
    (ended : Bool) : PathBuilder :=
  let parted := if isFile && builder.path == ['/'] then partedDrive? segment else none
  match parted with
  | some (drive, rest) =>
    let slash := if ended then ['/'] else []
    { builder with
      path := builder.path ++ drive ++ '/' :: (percentEncode encodedInPath rest ++ slash) }
  | none => builder.add isFile (percentEncode encodedInPath (withoutBreaks segment)) ended

def PathBuilder.addAll (isFile : Bool) (builder : PathBuilder) : List Text → PathBuilder
  | [] => builder
  | [segment] => builder.addWritten isFile segment false
  | segment :: segments => (builder.addWritten isFile segment true).addAll isFile segments

/-- The path that a text continues, and whether a drive has displaced the host.  The
path of a file begins with a single slash. -/
def buildPath (kind : SchemeKind) (start text : Text) : Text × Bool :=
  let text := if kind.isSpecial then text.map fun c => if c = '\\' then '/' else c else text
  let built := (⟨start, false⟩ : PathBuilder).addAll (kind == .file) (text.splitOn '/')
  if kind == .file then ('/' :: built.path.dropWhile (· == '/'), built.displaced)
  else (built.path, built.displaced)

end DawnServer.Url
