import DawnServer.Json.Basic

/-!
# The legend of semantic tokens

The types and modifiers that a token can have, in the order in which the client
learns them.  A type is sent as its place in that order and a set of modifiers as
the bits of their places.
-/

namespace DawnServer

inductive TokenType where
  | comment | string | keyword | otherKeyword | number | regexp | operator
  | moduleName | typeName | structName | className | interfaceName | enumName
  | typeParameter | function | method | decorator | macroName | variableName
  | parameter | property | label
  deriving Repr, DecidableEq

namespace TokenType

def all : List TokenType :=
  [comment, string, keyword, otherKeyword, number, regexp, operator, moduleName,
    typeName, structName, className, interfaceName, enumName, typeParameter, function,
    method, decorator, macroName, variableName, parameter, property, label]

def name : TokenType → String
  | comment => "comment"
  | string => "string"
  | keyword => "keyword"
  | otherKeyword => "keywordOther"
  | number => "number"
  | regexp => "regexp"
  | operator => "operator"
  | moduleName => "namespace"
  | typeName => "type"
  | structName => "struct"
  | className => "class"
  | interfaceName => "interface"
  | enumName => "enum"
  | typeParameter => "typeParameter"
  | function => "function"
  | method => "method"
  | decorator => "decorator"
  | macroName => "macro"
  | variableName => "variable"
  | parameter => "parameter"
  | property => "property"
  | label => "label"

/-- The number under which a type is sent. -/
def code (type : TokenType) : Nat := all.idxOf type

end TokenType

inductive TokenModifier where
  | declaration | documentation | readonly | static | abstract | deprecated
  | modification | async
  deriving Repr, DecidableEq

namespace TokenModifier

def all : List TokenModifier :=
  [declaration, documentation, readonly, static, abstract, deprecated, modification, async]

def name : TokenModifier → String
  | declaration => "declaration"
  | documentation => "documentation"
  | readonly => "readonly"
  | static => "static"
  | abstract => "abstract"
  | deprecated => "deprecated"
  | modification => "modification"
  | async => "async"

def bit (modifier : TokenModifier) : Nat := all.idxOf modifier

def ofName? (name : Text) : Option TokenModifier := all.find? (·.name.toList = name)

/-- The number whose bits are the modifiers of a list. -/
def bits (modifiers : List TokenModifier) : Nat :=
  modifiers.foldl (fun set modifier => set ||| 1 <<< modifier.bit) 0

end TokenModifier

def legend : Json :=
  .object [
    ("tokenTypes", .arr (TokenType.all.map (Json.lit ·.name))),
    ("tokenModifiers", .arr (TokenModifier.all.map (Json.lit ·.name)))]

end DawnServer
