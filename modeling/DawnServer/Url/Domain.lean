import DawnServer.Text.Composed
import DawnServer.Url.Direction
import DawnServer.Url.Joining
import DawnServer.Url.Mapping
import DawnServer.Url.Punycode

/-!
# Domains

Domains beyond ASCII in their ASCII form.  A domain is mapped and composed, cut into
labels, and each label is checked; labels in Punycode are checked in the form that
they stand for.
-/

namespace DawnServer.Url

def forbiddenInDomain (c : Char) : Bool :=
  c.toNat ≤ 0x20 || c.toNat == 0x7F ||
    ['%', '#', '/', ':', '<', '>', '?', '@', '[', '\\', ']', '^', '|'].contains c

def isAscii (c : Char) : Bool := c.toNat < 0x80

/-- The mapped and composed form of a text, if every character has a place in a
domain. -/
def domainForm? (text : Text) : Option Text :=
  (text.mapM mapped?).map fun images => Text.composed images.flatten

def punycodeMark : Text := ['x', 'n', '-', '-']

def longestEncoded : Nat := 2000

def longestDecoded : Nat := 1000

/-- The label that a label in its domain form stands for.  What Punycode stands for is
in its domain form too, and lies beyond ASCII. -/
def decodedLabel? (label : Text) : Option Text :=
  match Text.dropLead? punycodeMark label with
  | none => some label
  | some encoded =>
    if encoded.length ≤ longestEncoded then
      match Punycode.decode? encoded with
      | none => none
      | some decoded =>
        if !decoded.all isAscii ∧ domainForm? decoded = some decoded then some decoded else none
    else none

/-- Whether a decoded label is one: it begins with no mark, its joiners show, and it is
not too long. -/
def isLabel (label : Text) : Bool :=
  label.all isAscii ||
    (!(label.head?.any Text.isMark) && joinersShow [] label && label.length ≤ longestDecoded)

def encodedLabel (label : Text) : Text :=
  if label.all isAscii then label else punycodeMark ++ Punycode.encode label

def asciiDomain? (domain : Text) : Option Text := do
  let form ← domainForm? domain
  let labels ← (form.splitOn '.').mapM decodedLabel?
  guard (!form.any forbiddenInDomain)
  guard (labels.all isLabel && directionsClear labels)
  return ['.'].intercalate (labels.map encodedLabel)

end DawnServer.Url
