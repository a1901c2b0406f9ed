import DawnServer.Url.Basic
import DawnServer.Url.Domain

/-!
# Hosts

Domains, IPv4 and IPv6 addresses in normal form.  A domain is written in ASCII, and one
whose last label is a number is an IPv4 address.  Schemes without hosts of their own
take any text as a host, encoded.
-/

namespace DawnServer.Url

/-! ## IPv4 -/

/-- The number that a part of an address writes: hexadecimal after `0x`, octal after
another leading zero, decimal otherwise. -/
def ipv4Number? (part : Text) : Option Nat :=
  match part with
  | [] => none
  | ['0', 'x'] | ['0', 'X'] => some 0
  | '0' :: 'x' :: digits | '0' :: 'X' :: digits => Text.number? 16 digits
  | '0' :: digit :: digits => Text.number? 8 (digit :: digits)
  | digits => Text.number? 10 digits

def domainParts (domain : Text) : List Text :=
  let parts := domain.splitOn '.'
  if parts.getLast? = some [] then parts.dropLast else parts

def endsInNumber (domain : Text) : Bool :=
  match (domainParts domain).getLast? with
  | none => false
  | some part => (!part.isEmpty && part.all Char.isDigit) || (ipv4Number? part).isSome

/-- The address of numbers, of which the last fills all bytes that the others leave. -/
def ipv4OfNumbers? : List Nat → Option Nat
  | [] => none
  | numbers@(_ :: _) =>
    let leading := numbers.dropLast
    let last := numbers.getLastD 0
    let room := Nat.pow 256 (4 - leading.length)
    if numbers.length ≤ 4 ∧ leading.all (· < 256) ∧ last < room then
      some (leading.foldl (fun value n => value * 256 + n) 0 * room + last)
    else none

def renderIpv4 (value : Nat) : Text :=
  Text.ofNat (value / 0x1000000 % 256) ++ '.' :: (Text.ofNat (value / 0x10000 % 256) ++
    '.' :: (Text.ofNat (value / 256 % 256) ++ '.' :: Text.ofNat (value % 256)))

def normalIpv4? (domain : Text) : Option Text :=
  ((domainParts domain).mapM ipv4Number? >>= ipv4OfNumbers?).map renderIpv4

/-! ## IPv6 -/

def ipv6Group? (part : Text) : Option Nat :=
  if part.length ≤ 4 then Text.number? 16 part else none

def decimalByte? (part : Text) : Option Nat :=
  match Text.number? 10 part with
  | some n => if n < 256 ∧ part = Text.ofNat n then some n else none
  | none => none

def dottedGroups? (part : Text) : Option (List Nat) :=
  match (part.splitOn '.').mapM decimalByte? with
  | some [a, b, c, d] => some [a * 256 + b, c * 256 + d]
  | _ => none

/-- The groups of parts, of which the last may be a dotted address if it ends the
whole address. -/
def ipv6Groups? (final : Bool) : List Text → Option (List Nat)
  | [] => some []
  | [part] =>
    match ipv6Group? part with
    | some group => some [group]
    | none => if final then dottedGroups? part else none
  | part :: parts => do
    let group ← ipv6Group? part
    let groups ← ipv6Groups? final parts
    return group :: groups

def ipv6Run? (final : Bool) (text : Text) : Option (List Nat) :=
  if text.isEmpty then some [] else ipv6Groups? final (text.splitOn ':')

/-- What stands before and after the first two colons in a row. -/
def cutDoubleColon : Text → Option (Text × Text)
  | [] => none
  | ':' :: ':' :: text => some ([], text)
  | c :: text => (cutDoubleColon text).map fun (before, after) => (c :: before, after)

def ipv6? (text : Text) : Option (List Nat) :=
  match cutDoubleColon text with
  | some (before, after) => do
    let left ← ipv6Run? false before
    let right ← ipv6Run? true after
    if left.length + right.length ≤ 7 then
      some (left ++ List.replicate (8 - left.length - right.length) 0 ++ right)
    else none
  | none => do
    let groups ← ipv6Run? true text
    if groups.length = 8 then some groups else none

def zeroRun (groups : List Nat) : Nat := (groups.takeWhile (· == 0)).length

def longestZeroRun : List Nat → Nat
  | [] => 0
  | group :: groups => max (zeroRun (group :: groups)) (longestZeroRun groups)

def renderGroups : List Nat → Text
  | [] => []
  | [group] => Text.ofNatHex group
  | group :: groups => Text.ofNatHex group ++ ':' :: renderGroups groups

/-- Groups with the first run of zeros of the given length left out. -/
def renderCompressed (run : Nat) : List Nat → Text
  | [] => []
  | group :: groups =>
    if zeroRun (group :: groups) = run then
      ':' :: ':' :: renderGroups ((group :: groups).drop run)
    else
      let rest := renderCompressed run groups
      Text.ofNatHex group ++ (if zeroRun groups = run then rest else ':' :: rest)

def renderIpv6 (groups : List Nat) : Text :=
  let run := longestZeroRun groups
  '[' :: ((if 2 ≤ run then renderCompressed run groups else renderGroups groups) ++ [']'])

def bracketed? (host : Text) : Option Text :=
  match host with
  | '[' :: rest => Text.dropLast? ']' rest >>= fun inner => (ipv6? inner).map renderIpv6
  | _ => none

/-! ## Hosts of either kind -/

def specialHost? (host : Text) : Option Text :=
  match host with
  | '[' :: _ => bracketed? host
  | _ =>
    match Utf8.decode? (percentDecode host) >>= asciiDomain? with
    | none => none
    | some [] => none
    | some domain => if endsInNumber domain then normalIpv4? domain else some domain

def forbiddenInHost (c : Char) : Bool :=
  ['\x00', '\t', '\n', '\r', ' ', '#', '/', ':', '<', '>', '?', '@', '[', '\\', ']', '^',
    '|'].contains c

def plainHost? (host : Text) : Option Text :=
  match host with
  | '[' :: _ => bracketed? host
  | _ => if host.any forbiddenInHost then none else some (percentEncode encodedAlways host)

end DawnServer.Url
