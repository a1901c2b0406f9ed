import DawnServer.Text.Basic

/-!
# JSON values

The values that messages and framework payloads are made of.  An integer is a
number written without fraction and exponent; every other number keeps its
spelling.  An object keeps its members as they were written, and a repeated name
means its last value.
-/

namespace DawnServer

inductive Json where
  | null
  | bool (b : Bool)
  /-- A number written as an integer. -/
  | int (n : Int)
  /-- Any other number, as it was written. -/
  | real (spelling : Text)
  | str (text : Text)
  | arr (items : List Json)
  | obj (members : List (Text × Json))
  deriving Inhabited

namespace Json

def lit (s : String) : Json := .str s.toList

def nat (n : Nat) : Json := .int n

def object (members : List (String × Json)) : Json :=
  .obj (members.map fun (name, value) => (name.toList, value))

/-- The last member of that name. -/
def lookup? (name : Text) : List (Text × Json) → Option Json
  | [] => none
  | (key, value) :: members =>
    match lookup? name members with
    | some later => some later
    | none => if key = name then some value else none

mutual

/-- A value in whose objects no name stands twice: of its members the last is kept. -/
def settled : Json → Json
  | .arr items => .arr (settledItems items)
  | .obj members => .obj (settledMembers members)
  | value => value

def settledItems : List Json → List Json
  | [] => []
  | item :: items => settled item :: settledItems items

def settledMembers : List (Text × Json) → List (Text × Json)
  | [] => []
  | (name, value) :: members =>
    let later := settledMembers members
    if (lookup? name later).isSome then later else (name, settled value) :: later

end

theorem lookup?_isSome_iff {name : Text} {members : List (Text × Json)} :
    (lookup? name members).isSome ↔ name ∈ members.map (·.1) := by
  induction members with
  | nil => simp [lookup?]
  | cons member members ih =>
    obtain ⟨key, value⟩ := member
    rw [List.map_cons, List.mem_cons, ← ih, lookup?, @eq_comm _ name key]
    cases lookup? name members with
    | some later => simp
    | none => by_cases hkey : key = name <;> simp [hkey]

/-- **Of each name the last member is kept.** -/
theorem settledMembers_keeps_last (members : List (Text × Json)) :
    ((settledMembers members).map (·.1)).Nodup ∧
      ∀ name, lookup? name (settledMembers members) = (lookup? name members).map settled := by
  induction members with
  | nil => exact ⟨.nil, fun _ => rfl⟩
  | cons member members ih =>
    obtain ⟨key, value⟩ := member
    obtain ⟨hnodup, hlast⟩ := ih
    simp only [settledMembers]
    split
    next hlater =>
      refine ⟨hnodup, fun name => ?_⟩
      rw [hlast, lookup?]
      cases hname : lookup? name members with
      | some later => rfl
      | none =>
        -- a later member has the key, so the key is another name
        have hother : key ≠ name := by
          rintro rfl
          simp [hlast, hname] at hlater
        simp [hother]
    next hfirst =>
      refine ⟨List.nodup_cons.mpr ⟨mt lookup?_isSome_iff.mpr hfirst, hnodup⟩, fun name => ?_⟩
      rw [lookup?, hlast, lookup?]
      cases lookup? name members with
      | some later => rfl
      | none => by_cases hkey : key = name <;> simp [hkey]

/-! ## Reading values

A record is an object; it may also be the array of all its members in their order.
Members that a record does not know are passed over, and an optional member that is null
counts as missing. -/

def text? : Json → Option Text
  | .str text => some text
  | _ => none

def bool? : Json → Option Bool
  | .bool b => some b
  | _ => none

/-- Reads an integer between two bounds, which it may equal. -/
def intBetween? (low high : Int) : Json → Option Int
  | .int n => if low ≤ n ∧ n ≤ high then some n else none
  | _ => none

def int32? : Json → Option Int := intBetween? (-0x80000000) 0x7FFFFFFF

def nat32? (value : Json) : Option Nat := (intBetween? 0 0xFFFFFFFF value).map Int.toNat

def uint32? (value : Json) : Option UInt32 := (nat32? value).map UInt32.ofNat

def listOf? {α : Type} (read : Json → Option α) : Json → Option (List α)
  | .arr items => items.mapM read
  | _ => none

def record? (names : List String) : Json → Option (List (Text × Json))
  | .obj members => some members
  | .arr items =>
    if items.length = names.length then some ((names.map String.toList).zip items) else none
  | _ => none

def required? {α : Type} (name : String) (read : Json → Option α)
    (members : List (Text × Json)) : Option α :=
  lookup? name.toList members >>= read

def optional? {α : Type} (name : String) (read : Json → Option α)
    (members : List (Text × Json)) : Option (Option α) :=
  match lookup? name.toList members with
  | none | some .null => some none
  | some value => (read value).map some

end Json

end DawnServer
