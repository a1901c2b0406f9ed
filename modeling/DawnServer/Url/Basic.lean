import DawnServer.Text.Utf8

/-!
# URLs

An absolute URL in normal form: a scheme, an authority if two slashes follow the
scheme, a path, a query and a fragment.  All parts are already encoded.
-/

namespace DawnServer

/-- The part of a URL that names a host. -/
structure Authority where
  /-- User name and password, empty if there are none. -/
  userinfo : Text
  /-- The host, empty if the authority names none. -/
  host : Text
  /-- The port, if it is not the default one of the scheme. -/
  port : Option Nat
  deriving Repr, DecidableEq

/-- An absolute URL in normal form. -/
structure Url where
  scheme : Text
  authority : Option Authority
  path : Text
  query : Option Text
  fragment : Option Text
  deriving Repr, DecidableEq

namespace Url

/-- The schemes whose URLs always have a host and a path, with their default ports.
The scheme `file` is none of them. -/
def hostedSchemes : List (Text × Nat) :=
  [("http".toList, 80), ("https".toList, 443), ("ws".toList, 80), ("wss".toList, 443),
    ("ftp".toList, 21)]

inductive SchemeKind where
  /-- The scheme `file`: a host may be empty and drive letters are kept apart. -/
  | file
  | hosted (port : Nat)
  | other
  deriving Repr, DecidableEq

def kindOf (scheme : Text) : SchemeKind :=
  if scheme = "file".toList then .file
  else
    match hostedSchemes.lookup scheme with
    | some port => .hosted port
    | none => .other

/-- Whether a backslash counts as a slash. -/
def SchemeKind.isSpecial (kind : SchemeKind) : Bool := kind != .other

def renderAuthority (authority : Authority) : Text :=
  (if authority.userinfo.isEmpty then [] else authority.userinfo ++ ['@']) ++ authority.host ++
    match authority.port with
    | some port => ':' :: Text.ofNat port
    | none => []

/-- A part with the character that introduces it, if the part is present. -/
def introduced (c : Char) : Option Text → Text
  | some part => c :: part
  | none => []

/-- What stands between the scheme and the path.  Without an authority a path that
begins with two slashes is kept from looking like one. -/
def renderBeforePath (url : Url) : Text :=
  match url.authority with
  | some authority => '/' :: '/' :: renderAuthority authority
  | none => if Text.startsWith url.path ['/', '/'] then ['/', '.'] else []

def render (url : Url) : Text :=
  url.scheme ++ ':' :: (renderBeforePath url ++ url.path ++ introduced '?' url.query ++
    introduced '#' url.fragment)

/-! ## Percent-encoding

Which characters each part of a URL writes as bytes, and the decoding of such bytes.  A percent
sign that no two hexadecimal digits follow stands for itself. -/

/-- Controls and everything beyond ASCII are encoded everywhere. -/
def encodedAlways (c : Char) : Bool := c.toNat < 0x20 || 0x7E < c.toNat

def encodedInFragment (c : Char) : Bool :=
  encodedAlways c || [' ', '"', '<', '>', '\x60'].contains c

def encodedInQuery (c : Char) : Bool := encodedAlways c || [' ', '"', '#', '<', '>'].contains c

def encodedInSpecialQuery (c : Char) : Bool := encodedInQuery c || c == '\''

def encodedInPath (c : Char) : Bool :=
  encodedInFragment c || ['#', '?', '\x7b', '\x7d'].contains c

def encodedInUserinfo (c : Char) : Bool :=
  encodedInPath c || ['/', ':', ';', '=', '@', '[', '\\', ']', '^', '|'].contains c

def percentByte (b : UInt8) : Text :=
  ['%', Text.hexDigitUpper (b.toNat / 16), Text.hexDigitUpper (b.toNat % 16)]

/-- A text with the characters of a class written as bytes. -/
def percentEncode (encoded : Char → Bool) (text : Text) : Text :=
  text.flatMap fun c => if encoded c then (Utf8.encodeChar c).flatMap percentByte else [c]

def percentDecode : Text → List UInt8
  | [] => []
  | '%' :: a :: b :: text =>
    match Text.hexValue? a, Text.hexValue? b with
    | some high, some low => (high * 16 + low).toUInt8 :: percentDecode text
    | _, _ => 0x25 :: percentDecode (a :: b :: text)
  | c :: text => Utf8.encodeChar c ++ percentDecode text

end Url

end DawnServer
