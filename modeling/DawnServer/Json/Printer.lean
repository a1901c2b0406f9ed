import DawnServer.Json.Basic

/-!
# Writing JSON

Two layouts: the compact one on a single line, and the pretty one with a member or
an item per line, two spaces deeper than what holds it.  In both a string escapes
the quote, the backslash and the controls below U+0020, and nothing else.
-/

namespace DawnServer.Json

def escapeChar (c : Char) : Text :=
  if c = '"' then ['\\', '"']
  else if c = '\\' then ['\\', '\\']
  else if c = '\x08' then ['\\', 'b']
  else if c = '\t' then ['\\', 't']
  else if c = '\n' then ['\\', 'n']
  else if c = '\x0c' then ['\\', 'f']
  else if c = '\r' then ['\\', 'r']
  else if c.toNat < 0x20 then
    ['\\', 'u', '0', '0', Text.hexDigit (c.toNat / 16), Text.hexDigit (c.toNat % 16)]
  else [c]

def quote (text : Text) : Text := '"' :: (text.flatMap escapeChar ++ ['"'])

def leaf : Json → Text
  | .null => "null".toList
  | .bool true => "true".toList
  | .bool false => "false".toList
  | .int n => Text.ofInt n
  | .real spelling => spelling
  | .str text => quote text
  | .arr _ => ['[', ']']
  | .obj _ => ['\x7b', '\x7d']

mutual

/-- A value on one line, without spaces. -/
def compact : Json → Text
  | .arr items => '[' :: (compactItems items ++ [']'])
  | .obj members => '\x7b' :: (compactMembers members ++ ['\x7d'])
  | value => leaf value

def compactItems : List Json → Text
  | [] => []
  | [item] => compact item
  | item :: items => compact item ++ ',' :: compactItems items

def compactMembers : List (Text × Json) → Text
  | [] => []
  | [(name, value)] => quote name ++ ':' :: compact value
  | (name, value) :: members =>
    quote name ++ ':' :: (compact value ++ ',' :: compactMembers members)

end

def indent (depth : Nat) : Text := '\n' :: List.replicate (2 * depth) ' '

mutual

/-- A value laid out over lines, its closing bracket at the given depth. -/
def prettyAt (depth : Nat) : Json → Text
  | .arr (item :: items) =>
    '[' :: (prettyItems (depth + 1) (item :: items) ++ indent depth ++ [']'])
  | .obj (member :: members) =>
    '\x7b' :: (prettyMembers (depth + 1) (member :: members) ++ indent depth ++ ['\x7d'])
  | value => leaf value

def prettyItems (depth : Nat) : List Json → Text
  | [] => []
  | [item] => indent depth ++ prettyAt depth item
  | item :: items => indent depth ++ prettyAt depth item ++ ',' :: prettyItems depth items

def prettyMembers (depth : Nat) : List (Text × Json) → Text
  | [] => []
  | [(name, value)] => indent depth ++ quote name ++ ':' :: ' ' :: prettyAt depth value
  | (name, value) :: members =>
    indent depth ++ quote name ++ ':' :: ' ' :: (prettyAt depth value ++
      ',' :: prettyMembers depth members)

end

def pretty (value : Json) : Text := prettyAt 0 value

end DawnServer.Json
