import DawnServer.Framework.Table
import DawnServer.Script.Binding

/-!
# Completion

A completion request offers every known name, wherever the cursor stands: the
functions of the framework, the names that the document binds, the variables of the
framework and its keywords.  One pass over these groups offers each name of a group once;
a name that another group has shown is offered again, as what it is there.
-/

namespace DawnServer

inductive ItemKind where
  | function
  | variableName
  | constant
  | keyword
  deriving Repr, DecidableEq

def ItemKind.code : ItemKind → Nat
  | .function => 3
  | .variableName => 6
  | .constant => 21
  | .keyword => 14

structure CompletionItem where
  label : Text
  kind : ItemKind
  deriving Repr, DecidableEq

namespace CompletionItem

/-- The names that are offered, group by group: the functions of the framework, the names that
a document binds, the variables of the framework and its keywords. -/
def groups (table : Table) (bound : List Text) : List (ItemKind × List Text) :=
  [(.function, table.funcs), (.variableName, bound), (.constant, table.vars),
    (.keyword, table.keywords)]

/-- What a pass over the groups has come to: the names seen so far, each with the number of its
group, and the items offered for them. -/
structure Gathering where
  seen : List (Text × Nat)
  items : List CompletionItem

namespace Gathering

def empty : Gathering := ⟨[], []⟩

/-- Takes in the next name of a group.  One that the group has shown before is passed over. -/
def take (number : Nat) (kind : ItemKind) (gathering : Gathering) (label : Text) : Gathering :=
  if (label, number) ∈ gathering.seen then gathering
  else ⟨(label, number) :: gathering.seen, gathering.items ++ [⟨label, kind⟩]⟩

def takeGroups (number : Nat) (gathering : Gathering) :
    List (ItemKind × List Text) → Gathering
  | [] => gathering
  | (kind, labels) :: groups =>
    (labels.foldl (take number kind) gathering).takeGroups (number + 1) groups

end Gathering

/-- The items that a document offers. -/
def forDocument (table : Table) (text : Text) : List CompletionItem :=
  (Gathering.empty.takeGroups 0 (groups table (boundNames text))).items

def detail? (kind : Int) (label : Text) : Option Text :=
  if kind = ItemKind.function.code then some ("fn ".toList ++ label)
  else if kind = ItemKind.variableName.code then some ("let ".toList ++ label)
  else if kind = ItemKind.constant.code then some ("const ($)! ".toList ++ label)
  else none

end CompletionItem

end DawnServer
