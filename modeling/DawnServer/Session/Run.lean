import DawnServer.Session.Turn

/-!
# Runs

A run of a session in a world of files: between the messages files are written and
removed, and the server reads what is there at the moment.
-/

namespace DawnServer

inductive Step where
  | write (entries : List (List UInt8 × FileNode))
  | remove (path : List UInt8)
  | message (message : Message)

/-- A session with the files around it. -/
structure World where
  files : FileTree
  session : Session

inductive Outcome where
  /-- Nothing, since it was about files. -/
  | silent
  | turn (turn : Turn)
  /-- The session had ended before. -/
  | ended

namespace FileTree

def writeAll (tree : FileTree) (entries : List (List UInt8 × FileNode)) : FileTree :=
  entries.foldl (fun tree (path, node) => tree.write path node) tree

/-- The tree with a working directory and some entries. -/
def withWorking (working : List FileName) (entries : List (List UInt8 × FileNode)) : FileTree :=
  (empty.makeDirectories [] working).writeAll entries

end FileTree

namespace World

def start (working : List FileName) (files : FileTree) (settings : Settings) : World :=
  ⟨files, Session.start (files.reader working) settings⟩

def step (working : List FileName) (world : World) (step : Step) : World × Outcome :=
  if world.session.phase = .ended then (world, .ended)
  else
    match step with
    | .write entries => ({ world with files := world.files.writeAll entries }, .silent)
    | .remove path => ({ world with files := world.files.remove path }, .silent)
    | .message message =>
      match world.session.turn? (world.files.reader working) message with
      | none => (world, .ended)
      | some turn => ({ world with session := turn.session }, .turn turn)

/-- Takes steps one after the other, and gives what each of them shows. -/
def run (working : List FileName) (world : World) : List Step → World × List Outcome
  | [] => (world, [])
  | next :: steps =>
    let (world, outcome) := world.step working next
    let (last, outcomes) := world.run working steps
    (last, outcome :: outcomes)

end World

end DawnServer
