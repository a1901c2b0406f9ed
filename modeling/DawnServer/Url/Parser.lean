import DawnServer.Url.Host
import DawnServer.Url.Path

/-!
# Reading URLs

Absolute URLs as documents are named by them: controls and spaces at both ends and all
tabs and line breaks are dropped, the scheme and the host are lower-cased, and every
part is encoded and brought into its normal form.
-/

namespace DawnServer.Url

def trimmed (text : Text) : Text :=
  let edge := fun c : Char => c.toNat ≤ 0x20
  ((text.dropWhile edge).reverse.dropWhile edge).reverse

def inScheme (c : Char) : Bool := c.isAlphanum || c == '+' || c == '-' || c == '.'

def scheme? : Text → Option (Text × Text)
  | [] => none
  | c :: text =>
    if c.isAlpha then
      match text.dropWhile inScheme with
      | ':' :: rest => some (Text.asciiLower (c :: text.takeWhile inScheme), rest)
      | _ => none
    else none

/-- A text cut at the first question mark or number sign: what stands before, the
query after the one, and the fragment after the other. -/
def cutSuffixes (text : Text) : Text × Option Text × Option Text :=
  let (front, fragment) := Text.cut '#' text
  let (path, query) := Text.cut '?' front
  (path, query, fragment)

def encodeSuffixes (kind : SchemeKind) (query fragment : Option Text) :
    Option Text × Option Text :=
  let inQuery := if kind.isSpecial then encodedInSpecialQuery else encodedInQuery
  (query.map (percentEncode inQuery), fragment.map (percentEncode encodedInFragment))

def isSlash (c : Char) : Bool := c == '/' || c == '\\'

def endsAuthority (kind : SchemeKind) (c : Char) : Bool :=
  c == '/' || c == '?' || c == '#' || (kind.isSpecial && c == '\\')

def cutLastAt : Text → Option (Text × Text)
  | [] => none
  | c :: text =>
    match cutLastAt text with
    | some (before, after) => some (c :: before, after)
    | none => if c = '@' then some ([], text) else none

/-- User name and password in their normal form.  An empty password goes without its
colon. -/
def encodeUserinfo (text : Text) : Text :=
  let (name, password) := Text.cut ':' text
  percentEncode encodedInUserinfo name ++
    match password with
    | none | some [] => []
    | some password => ':' :: percentEncode encodedInUserinfo password

/-- The host at the front of a text, up to a colon outside brackets, and the rest. -/
def cutHost (kind : SchemeKind) (bracketed : Bool) : Text → Text × Text
  | [] => ([], [])
  | c :: text =>
    if (c == ':' && !bracketed) || endsAuthority kind c then ([], c :: text)
    else
      let bracketed := if c = '[' then true else if c = ']' then false else bracketed
      let (host, rest) := cutHost kind bracketed text
      (c :: host, rest)

/-- Reads a port after its colon: the port unless it is the default one, and the
rest. -/
def port? (kind : SchemeKind) (text : Text) : Option (Option Nat × Text) :=
  let digits := text.takeWhile Char.isDigit
  let rest := text.dropWhile Char.isDigit
  let ended :=
    match rest with
    | [] => true
    | c :: _ => c == '/' || c == '\\' || c == '?' || c == '#'
  if ended then
    match Text.number? 10 digits with
    | none => some (none, rest)
    | some n =>
      if n < 65536 then some (if kind == .hosted n then none else some n, rest) else none
  else none

def authority? (kind : SchemeKind) (text : Text) : Option (Authority × Text) := do
  let inside := text.takeWhile fun c => !endsAuthority kind c
  let beyond := text.dropWhile fun c => !endsAuthority kind c
  let credentials := cutLastAt inside
  let userinfo :=
    match credentials with
    | some (before, _) => encodeUserinfo before
    | none => []
  let text :=
    match credentials with
    | some (_, after) => after ++ beyond
    | none => text
  match credentials, text with
  | some ([], _), c :: _ => guard (!endsAuthority kind c)
  | _, _ => pure ()
  let (hostText, rest) := cutHost kind false text
  let host ← if kind.isSpecial then specialHost? hostText else plainHost? hostText
  guard (!(host.isEmpty && (!userinfo.isEmpty || rest.head? == some ':')))
  match rest with
  | ':' :: rest =>
    let (port, rest) ← port? kind rest
    return (⟨userinfo, host, port⟩, rest)
  | _ => return (⟨userinfo, host, none⟩, rest)

def withAuthority? (scheme : Text) (kind : SchemeKind) (text : Text) : Option Url := do
  let (authority, rest) ← authority? kind text
  let (pathText, query, fragment) := cutSuffixes rest
  let path :=
    match pathText with
    | [] => if kind.isSpecial then ['/'] else []
    | c :: tail =>
      if c == '/' || (kind.isSpecial && c == '\\') then
        if kind.isSpecial then (buildPath kind ['/'] tail).1 else (buildPath kind [] pathText).1
      else (buildPath kind ['/'] pathText).1
  let (query, fragment) := encodeSuffixes kind query fragment
  return ⟨scheme, some authority, path, query, fragment⟩

/-- A URL of a file with a host that a drive may displace, from the path so far and what
follows it. -/
def fileAt (host start text : Text) : Url :=
  let (pathText, query, fragment) := cutSuffixes text
  let (path, displaced) := buildPath .file start pathText
  let (query, fragment) :=
    encodeSuffixes .file (query.map withoutBreaks) (fragment.map withoutBreaks)
  ⟨"file".toList, some ⟨[], if displaced then [] else host, none⟩, path, query, fragment⟩

/-- A URL of a file, from what follows the two slashes.  A host that is empty, or that is
`localhost`, is dropped, and the path then begins with a segment of its own. -/
def fileWithHost? (text : Text) : Option Url := do
  let hostText := withoutBreaks (text.takeWhile fun c => !endsAuthority .file c)
  let beyond := text.dropWhile fun c => !endsAuthority .file c
  if isDrive hostText then return fileAt [] ['/'] text
  else if hostText.isEmpty then return fileAt [] ['/'] beyond
  else
    let host ← specialHost? hostText
    if host = "localhost".toList then return fileAt [] ['/'] beyond
    else
      match beyond with
      | c :: tail => return fileAt host ['/'] (if isSlash c then tail else beyond)
      | [] => return fileAt host ['/'] []

/-- A URL of a file, from what follows the colon.  Breaks count here, see
`partedDrive?`. -/
def file? (text : Text) : Option Url :=
  match next? text with
  | some (c, rest) =>
    if isSlash c then
      match next? rest with
      | some (d, rest) => if isSlash d then fileWithHost? rest else some (fileAt [] [] text)
      | none => some (fileAt [] [] text)
    else some (fileAt [] ['/'] text)
  | none => some (fileAt [] ['/'] text)

def other? (scheme text : Text) : Option Url :=
  match text with
  | '/' :: '/' :: rest => withAuthority? scheme .other rest
  | _ =>
    let (pathText, query, fragment) := cutSuffixes text
    let path :=
      match pathText with
      | '/' :: tail => (buildPath .other ['/'] tail).1
      | _ => percentEncode encodedAlways pathText
    let (query, fragment) := encodeSuffixes .other query fragment
    some ⟨scheme, none, path, query, fragment⟩

/-- The absolute URL that a text writes. -/
def parse? (text : Text) : Option Url := do
  let written := trimmed text
  let (scheme, rest) ← scheme? (withoutBreaks written)
  match kindOf scheme with
  | .file => (Text.cut ':' written).2 >>= file?
  | .hosted port => withAuthority? scheme (.hosted port) (rest.dropWhile isSlash)
  | .other => other? scheme rest

end DawnServer.Url
