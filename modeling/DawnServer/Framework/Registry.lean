import DawnServer.Framework.Table

/-!
# The session's table

A session takes its framework table from the first source that offers one; later
offers are refused.  Until then the builtin table is in effect without being
stored.
-/

namespace DawnServer

/-- Where a table came from. -/
inductive TableSource where
  | notification
  | commandLine
  | adjacentFile
  /-- The builtin table, in place of a file that could not be read. -/
  | builtin
  deriving Repr, DecidableEq

def TableSource.name : TableSource → String
  | .notification => "Notification"
  | .commandLine => "CommandLine"
  | .adjacentFile => "AdjacentFile"
  | .builtin => "Builtin"

/-- The table of a session with its source, once one has been provided. -/
structure Registry where
  stored : Option (Table × TableSource)
  deriving DecidableEq

namespace Registry

def empty : Registry := ⟨none⟩

def filled (table : Table) (source : TableSource) : Registry := ⟨some (table, source)⟩

def isFilled (registry : Registry) : Bool := registry.stored.isSome

def source? (registry : Registry) : Option TableSource := registry.stored.map (·.2)

def table (registry : Registry) : Table :=
  match registry.stored with
  | some (table, _) => table
  | none => Table.builtin

/-- Offers a table; it is taken if none was provided before. -/
def provide (registry : Registry) (table : Table) (source : TableSource) : Registry :=
  if registry.isFilled then registry else filled table source

@[simp] theorem provide_empty (table : Table) (source : TableSource) :
    empty.provide table source = filled table source := rfl

theorem provide_of_isFilled {registry : Registry} (h : registry.isFilled) (table : Table)
    (source : TableSource) : registry.provide table source = registry := by
  simp [provide, h]

end Registry

end DawnServer
