import DawnServer.Json.Basic
import DawnServer.Url.Parser

/-!
# Shapes of messages

A shape says which JSON values a part of a message may be.  Reading a value by its
shape gives its normal form: unknown and null members are dropped, records are
objects, and URIs are in normal form.
-/

namespace DawnServer

/-- When a member of a record may be missing. -/
inductive Presence where
  | needed
  /-- Always, and null counts as missing; but an array keeps the place of the member. -/
  | optional
  /-- Always, and null counts as missing; an array may end before the member. -/
  | spare
  /-- Always, but null does not count as missing; an array may end before the member. -/
  | unlessNull
  deriving Repr, DecidableEq

def Presence.mayLack : Presence → Bool
  | .needed | .optional => false
  | .spare | .unlessNull => true

inductive Shape where
  | any
  | bool
  | text
  /-- One of some words, as a text or as an object whose one member is null. -/
  | word (choices : List String)
  | int (low high : Int)
  | number
  | uri
  | list (item : Shape)
  | pair (item : Shape)
  /-- Values of the first shape, and of the second where they are not of the first. -/
  | either (first second : Shape)
  /-- An object with these members, or the array of them if that is allowed. -/
  | record (asArray : Bool) (fields : List (String × Presence × Shape))
  /-- An object with these members, whose other members are of one shape. -/
  | extended (fields : List (String × Presence × Shape)) (others : Shape)
  | map (name value : Shape)
  /-- A record of one of several kinds.  A member says which, as the name of the kind or
  its number; in an array it comes first. -/
  | tagged (tag : String) (kinds : List (String × Shape))

namespace Shape

abbrev Fields := List (String × Presence × Shape)

/-- Pairs the items of an array with the names of members.  What an array leaves out at
its end must be what an array may lack. -/
def named? : Fields → List Json → Option (List (Text × Json))
  | (name, _) :: fields, item :: items => (named? fields items).map ((name.toList, item) :: ·)
  | [], _ :: _ => none
  | fields, [] => if fields.all fun (_, presence, _) => presence.mayLack then some [] else none

/-- The word that a value stands for: a text, or the name of the one member of an object,
which is null. -/
def word? : Json → Option Text
  | .str letters => some letters
  | .obj [(letters, .null)] => some letters
  | _ => none

def readMembers? (readName readValue : Json → Option Json) :
    List (Text × Json) → Option (List (Text × Json))
  | [] => some []
  | (name, value) :: members => do
    let name ← readName (.str name) >>= Json.text?
    let value ← readValue value
    let members ← readMembers? readName readValue members
    return (name, value) :: members

def cutTag? (tag : String) : Json → Option (Json × Json)
  | .obj members =>
    (Json.lookup? tag.toList members).map fun kind =>
      (kind, .obj (members.filter (·.1 ≠ tag.toList)))
  | .arr (kind :: items) => some (kind, .arr items)
  | _ => none

/-- Whether a tag names a kind, which has a number too. -/
def tells (name : String) (number : Nat) : Json → Bool
  | .str letters => letters == name.toList
  | .int n => n == number
  | _ => false

mutual

/-- The normal form of a value of a shape. -/
def read? : Shape → Json → Option Json
  | .any, value => some value
  | .bool, value => value.bool?.map .bool
  | .text, value => value.text?.map .str
  | .word choices, value =>
    word? value >>= fun text =>
      if (choices.map String.toList).contains text then some (.str text) else none
  | .int low high, value => (value.intBetween? low high).map .int
  | .number, .int n => some (.int n)
  | .number, .real spelling => some (.real spelling)
  | .number, _ => none
  | .uri, value => value.text? >>= fun text => (Url.parse? text).map fun url => .str url.render
  | .list item, .arr items => (items.mapM fun value => read? item value).map .arr
  | .list _, _ => none
  | .pair item, .arr [a, b] => do
    let a ← read? item a
    let b ← read? item b
    return .arr [a, b]
  | .pair _, _ => none
  | .either first second, value =>
    match read? first value with
    | some normal => some normal
    | none => read? second value
  | .record asArray fields, value =>
    match value with
    | .obj members => (readFields? fields members).map .obj
    | .arr items =>
      if asArray then (named? fields items >>= readFields? fields).map .obj else none
    | _ => none
  | .extended fields others, .obj members => do
    let known ← readFields? fields members
    let beyond := members.filter fun (name, _) => !fields.any fun (field, _) => field.toList == name
    let extra ← readMembers? some (fun value => read? others value) beyond
    return .obj (known ++ extra)
  | .extended _ _, _ => none
  | .map name shape, .obj members =>
    (readMembers? (fun value => read? name value) (fun value => read? shape value) members).map .obj
  | .map _ _, _ => none
  | .tagged tag kinds, value =>
    cutTag? tag value >>= fun (kind, body) => readKind? tag kind body 0 kinds

def readFields? : List (String × Presence × Shape) → List (Text × Json) →
    Option (List (Text × Json))
  | [], _ => some []
  | (name, presence, shape) :: fields, members =>
    match presence, Json.lookup? name.toList members with
    | .needed, none => none
    | _, none | .optional, some .null | .spare, some .null => readFields? fields members
    | _, some value => do
      let normal ← read? shape value
      let rest ← readFields? fields members
      return (name.toList, normal) :: rest

def readKind? (tag : String) (kind body : Json) (number : Nat) :
    List (String × Shape) → Option Json
  | [] => none
  | (name, shape) :: kinds =>
    if tells name number kind then
      match read? shape body with
      | some (.obj members) => some (.obj ((tag.toList, .str name.toList) :: members))
      | _ => none
    else readKind? tag kind body (number + 1) kinds

end

def admits (shape : Shape) (value : Json) : Bool := (shape.read? value).isSome

def nat32 : Shape := .int 0 0xFFFFFFFF

def int32 : Shape := .int (-0x80000000) 0x7FFFFFFF

def needs (name : String) (shape : Shape) : String × Presence × Shape := (name, .needed, shape)

def may (name : String) (shape : Shape) : String × Presence × Shape := (name, .optional, shape)

def mayEnd (name : String) (shape : Shape) : String × Presence × Shape := (name, .spare, shape)

def mayGive (name : String) (shape : Shape) : String × Presence × Shape :=
  (name, .unlessNull, shape)

def tuple (fields : Fields) : Shape := .record true fields

def object (fields : Fields) : Shape := .record false fields

end Shape

end DawnServer
