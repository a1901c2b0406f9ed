import DawnServer.Json.Basic

/-!
# Framework tables

A framework table names the functions, variables and keywords that a project adds
to the language.  It maps category names to their members in order of declaration.
Categories stand in the order of their names, each name once, so two tables with
the same categories are equal.
-/

namespace DawnServer

abbrev Category := Text × List Text

/-- A table of categories in strictly increasing order of names. -/
structure Table where
  categories : List Category
  ordered : categories.Pairwise (fun a b => a.1 < b.1)
  deriving DecidableEq

namespace Table

def empty : Table := ⟨[], .nil⟩

instance : Inhabited Table := ⟨empty⟩

def membersIn? (name : Text) : List Category → Option (List Text)
  | [] => none
  | (key, members) :: categories =>
    if key = name then some members else membersIn? name categories

/-- Puts a category at its place in an ordered list, in place of one of its name. -/
def insertIn (name : Text) (members : List Text) : List Category → List Category
  | [] => [(name, members)]
  | (key, old) :: categories =>
    if name < key then (name, members) :: (key, old) :: categories
    else if key < name then (key, old) :: insertIn name members categories
    else (name, members) :: categories

theorem fst_mem_insertIn {name : Text} {members : List Text} {categories : List Category}
    {c : Category} (h : c ∈ insertIn name members categories) :
    c.1 = name ∨ c ∈ categories := by
  induction categories with
  | nil =>
    simp only [insertIn, List.mem_singleton] at h
    exact .inl (h ▸ rfl)
  | cons d categories ih =>
    obtain ⟨key, old⟩ := d
    simp only [insertIn] at h
    split at h
    · rcases List.mem_cons.1 h with h | h
      · exact .inl (h ▸ rfl)
      · exact .inr h
    · split at h
      · rcases List.mem_cons.1 h with h | h
        · exact .inr (h ▸ List.mem_cons_self)
        · exact (ih h).imp id (List.mem_cons_of_mem _)
      · rcases List.mem_cons.1 h with h | h
        · exact .inl (h ▸ rfl)
        · exact .inr (List.mem_cons_of_mem _ h)

theorem ordered_insertIn (name : Text) (members : List Text) {categories : List Category}
    (h : categories.Pairwise (fun a b => a.1 < b.1)) :
    (insertIn name members categories).Pairwise (fun a b => a.1 < b.1) := by
  induction categories with
  | nil => simp [insertIn]
  | cons d categories ih =>
    obtain ⟨key, old⟩ := d
    obtain ⟨hd, ht⟩ := List.pairwise_cons.1 h
    simp only [insertIn]
    split
    · next hlt =>
      refine List.pairwise_cons.2 ⟨fun c hc => ?_, h⟩
      rcases List.mem_cons.1 hc with rfl | hc
      · exact hlt
      · exact List.lt_trans hlt (hd c hc)
    · split
      · next hgt =>
        refine List.pairwise_cons.2 ⟨fun c hc => ?_, ih ht⟩
        rcases fst_mem_insertIn hc with hc | hc
        · exact hc ▸ hgt
        · exact hd c hc
      · next hlt hgt =>
        have he : key = name := List.le_antisymm (List.not_lt.1 hlt) (List.not_lt.1 hgt)
        exact List.pairwise_cons.2 ⟨fun c hc => he ▸ hd c hc, ht⟩

def members? (table : Table) (name : Text) : Option (List Text) :=
  membersIn? name table.categories

/-- The members of a category; one that is missing has none. -/
def members (table : Table) (name : Text) : List Text := (table.members? name).getD []

def has (table : Table) (name : Text) : Bool := (table.members? name).isSome

def insert (table : Table) (name : Text) (members : List Text) : Table :=
  ⟨insertIn name members table.categories, ordered_insertIn name members table.ordered⟩

def append (table : Table) (name member : Text) : Table :=
  table.insert name (table.members name ++ [member])

/-- The table of a list of categories; of two with one name the later counts. -/
def ofList (categories : List Category) : Table :=
  categories.foldl (fun table (name, members) => table.insert name members) empty

def funcsName : Text := "funcs".toList

def varsName : Text := "vars".toList

def keywordsName : Text := "keywordOther".toList

def funcs (table : Table) : List Text := table.members funcsName

def vars (table : Table) : List Text := table.members varsName

def keywords (table : Table) : List Text := table.members keywordsName

/-- The table in effect while no other is known. -/
def builtin : Table :=
  ofList [
    (funcsName, ["say".toList, "short_say".toList, "ask".toList]),
    (varsName, ["$hello".toList]),
    (keywordsName, ["let".toList])]

def toJson (table : Table) : Json :=
  .obj (table.categories.map fun (name, members) => (name, .arr (members.map .str)))

def texts? : List Json → Option (List Text)
  | [] => some []
  | .str text :: items => (texts? items).map (text :: ·)
  | _ :: _ => none

/-- Reads the members of an object as categories.  Each of them is judged, also one that a
later one of its name replaces; the parameters of a message hold no such member. -/
def categories? : List (Text × Json) → Option (List Category)
  | [] => some []
  | (name, .arr items) :: members => do
    let items ← texts? items
    let categories ← categories? members
    return (name, items) :: categories
  | _ :: _ => none

def ofJson? : Json → Option Table
  | .obj members => (categories? members).map ofList
  | _ => none

theorem membersIn?_insertIn_self (name : Text) (members : List Text)
    (categories : List Category) :
    membersIn? name (insertIn name members categories) = some members := by
  induction categories with
  | nil => simp [insertIn, membersIn?]
  | cons d categories ih =>
    obtain ⟨key, old⟩ := d
    simp only [insertIn]
    split
    · simp [membersIn?]
    · split
      · next hgt =>
        have hne : key ≠ name := fun h => List.lt_irrefl name (h ▸ hgt)
        simp [membersIn?, hne, ih]
      · simp [membersIn?]

theorem membersIn?_insertIn_of_ne {name other : Text} (h : name ≠ other)
    (members : List Text) (categories : List Category) :
    membersIn? other (insertIn name members categories) = membersIn? other categories := by
  induction categories with
  | nil => simp [insertIn, membersIn?, h]
  | cons d categories ih =>
    obtain ⟨key, old⟩ := d
    simp only [insertIn]
    split
    · simp [membersIn?, h]
    · split
      · simp [membersIn?, ih]
      · next hlt hgt =>
        have he : key = name := List.le_antisymm (List.not_lt.1 hlt) (List.not_lt.1 hgt)
        simp [membersIn?, he, h]

@[simp] theorem members?_insert_self (table : Table) (name : Text) (members : List Text) :
    (table.insert name members).members? name = some members :=
  membersIn?_insertIn_self _ _ _

theorem members?_insert_of_ne {name other : Text} (h : name ≠ other) (table : Table)
    (members : List Text) :
    (table.insert name members).members? other = table.members? other :=
  membersIn?_insertIn_of_ne h _ _

end Table

end DawnServer
