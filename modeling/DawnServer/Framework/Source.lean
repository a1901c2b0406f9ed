import DawnServer.Framework.Table

/-!
# Framework files

The line-oriented form of a framework table.  A line whose first word ends with a
colon opens a category; each following line adds its first word as a member, up to
a line whose first word is a semicolon.  Every other line outside a category is
passed over, so every text can be read.
-/

namespace DawnServer

/-- What has been read so far: the table, and the category that is open. -/
structure FrameworkReader where
  table : Table
  current : Option Text

namespace FrameworkReader

def start : FrameworkReader := ⟨Table.empty, none⟩

/-- The first word of a line: what stands before its first space, without a carriage
return at the end of the line and without white space around the word. -/
def firstWord (line : Text) : Text := Text.trim (Text.cut ' ' (Text.dropLastOf '\r' line)).1

/-- Takes in the first word of the next line.  A header with an empty name declares
its category and leaves it closed. -/
def take (reader : FrameworkReader) (word : Text) : FrameworkReader :=
  match reader.current with
  | some name =>
    if word = [';'] then { reader with current := none }
    else { reader with table := reader.table.append name word }
  | none =>
    match Text.dropLast? ':' word with
    | none => reader
    | some name =>
      { table := reader.table.insert name []
        current := if name.isEmpty then none else some name }

def takeLines (reader : FrameworkReader) (lines : List Text) : FrameworkReader :=
  lines.foldl (fun reader line => reader.take (firstWord line)) reader

def read (source : Text) : FrameworkReader := start.takeLines (source.splitOn '\n')

@[simp] theorem takeLines_nil (reader : FrameworkReader) : reader.takeLines [] = reader := rfl

@[simp] theorem takeLines_cons (reader : FrameworkReader) (line : Text) (lines : List Text) :
    reader.takeLines (line :: lines) = (reader.take (firstWord line)).takeLines lines := rfl

theorem takeLines_append (reader : FrameworkReader) (a b : List Text) :
    reader.takeLines (a ++ b) = (reader.takeLines a).takeLines b := List.foldl_append

end FrameworkReader

namespace Table

/-- The table that a framework file declares. -/
def parse (source : Text) : Table := (FrameworkReader.read source).table

def categoryLines (category : Category) : List Text :=
  (category.1 ++ [':']) :: (category.2 ++ [[';']])

/-- A framework file that declares a table, every line ended by a line feed. -/
def render (table : Table) : Text :=
  (table.categories.flatMap categoryLines).flatMap (· ++ ['\n'])

end Table

end DawnServer
