import GoldenBench.Event
import GoldenBench.Files.Store

/-!
# The state of a run

A run reads and writes a file tree and keeps a journal. What a run does is a function from a `World` to a result
and a `World`, so a run is a value like any other. What compilers and other programs do for a run are errands: they
reach the file tree, but neither the journal nor the order in which things happen.

* `Errand.withScratch` goes on an errand with a fresh directory that is gone afterwards.
* `Errand.packUp` takes such a directory out of the file tree to keep what is in it, and `Errand.unpack` puts it back.
* `Run.send` sends for the answer of an errand.
* `Run.tell` adds an event to the journal.
* `Run.readText` reads a file.
* `Run.pick` decides what happens first where several things are under way at once: the world holds what it
  decides, so a statement about every world is one about every order.
-/

namespace GoldenBench

/-- What an errand works on. -/
structure Workspace where
  /-- The file tree. -/
  files : Store
  /-- The number that the next scratch directory has, if it is free. -/
  scratches : Nat
  /-- The lines that were found outside any diagnostic, the earliest first. -/
  strays : List String

/-- A step that something outside takes for a run. -/
abbrev Errand (α : Type) := StateM Workspace α

/-- The directory for scratch directories. -/
def Run.scratchRoot : Key := ["tmp", "scratch"]

/-- Where the numbers of scratch directories start over. -/
def Run.scratchCycle : Nat := 1000000

/-- The file tree with the directory for scratch directories. -/
def Store.withScratchRoot (files : Store) : Store :=
  if files.holdsDirectory Run.scratchRoot.path then files else files.makeDirectories Run.scratchRoot

/-- Nothing is at a place or below it. -/
def Store.isFree (files : Store) (key : Key) : Bool :=
  files.entries.all fun (k, _) => !key.isPrefixOf k

/-- The first number from `n` on that is free as a name in a directory. One of so many is, since each entry is in
the way of one number at most. -/
def Store.freeNumber (files : Store) (directory : Key) (n : Nat) : Nat :=
  ((List.range' n (files.entries.length + 1)).find? fun m => files.isFree (directory ++ [toString m])).getD n

/-- Entries that were taken out of a file tree, each with its place. -/
abbrev Parcel := List (Key × Entry)

/-- What is at a place and below it. -/
def Store.within (files : Store) (key : Key) : Parcel :=
  files.entries.filter fun (k, _) => key.isPrefixOf k

/-- The tree with entries in their places. -/
def Store.restore (files : Store) (parcel : Parcel) : Store :=
  parcel.foldl (fun files (key, entry) => files.insert key entry) files

/-- A directory for a while. -/
structure Scratch where
  /-- Where it lies. -/
  key : Key
  /-- A path that leads to it. -/
  path : Path

namespace Errand

/-- Hands on a line that stands outside any diagnostic. -/
def tellStray (line : String) : Errand Unit :=
  modify fun workspace => { workspace with strays := workspace.strays ++ [line] }

/-- The file tree. -/
def files : Errand Store :=
  return (← get).files

/-- Replaces the file tree. -/
def setFiles (files : Store) : Errand Unit :=
  modify fun workspace => { workspace with files := files }

/-- Makes a fresh directory, if there is a directory to make it in. -/
def makeScratch : Errand (Except FileFault Scratch) := fun workspace =>
  match workspace.files.locate true Run.scratchRoot.path with
  | .ok (.found directory .directory) =>
    let n := workspace.files.freeNumber directory (workspace.scratches % Run.scratchCycle)
    let scratch : Scratch := ⟨directory ++ [toString n], Key.path (Run.scratchRoot ++ [toString n])⟩
    if workspace.files.isSealed scratch.key then (.error .denied, workspace)
    else (.ok scratch,
      { workspace with files := workspace.files.insert scratch.key .directory, scratches := n + 1 })
  | .ok (.found _ _) => (.error .notDirectory, workspace)
  | .ok (.absent _) => (.error .notFound, workspace)
  | .error fault => (.error fault, workspace)

/-- Removes a directory and all in it. -/
def dropScratch (scratch : Scratch) : Errand Unit :=
  modify fun workspace => { workspace with files := workspace.files.remove scratch.key }

/-- Takes a directory out of the tree with all in it. -/
def packUp (scratch : Scratch) : Errand Parcel := do
  let files ← files
  dropScratch scratch
  return files.within scratch.key

/-- Puts back what was taken out. -/
def unpack (parcel : Parcel) : Errand Unit :=
  modify fun workspace => { workspace with files := workspace.files.restore parcel }

/-- Goes on an errand with a fresh directory that is gone afterwards, if there is a place for one. -/
def withScratch {α : Type} (refuse : FileFault → α) (step : Path → Errand α) : Errand α := do
  match ← makeScratch with
  | .error fault => return refuse fault
  | .ok scratch =>
    let result ← step scratch.path
    dropScratch scratch
    return result

end Errand

/-- What a run works on. -/
structure World where
  /-- The file tree. -/
  files : Store
  /-- What has happened, the earliest event first. -/
  journal : List Event
  /-- The number that the next scratch directory has, if it is free. -/
  scratches : Nat
  /-- Which of the things under way happens next, at each such choice. -/
  picks : List Nat

namespace World

/-- A world in which nothing has happened yet. -/
def start (files : Store) (picks : List Nat) : World :=
  ⟨files, [], 0, picks⟩

/-- What an errand finds. -/
def workspace (world : World) : Workspace :=
  ⟨world.files, world.scratches, []⟩

end World

/-- A step of a run. -/
abbrev Run (α : Type) := StateM World α

namespace Run

/-- Adds an event to the journal. -/
def tell (event : Event) : Run Unit :=
  modify fun world => { world with journal := world.journal ++ [event] }

/-- The file tree. -/
def files : Run Store :=
  return (← get).files

/-- Replaces the file tree. -/
def setFiles (files : Store) : Run Unit :=
  modify fun world => { world with files := files }

/-- Which of the things under way happens next. -/
def pick : Run Nat := do
  let world ← get
  set { world with picks := world.picks.drop 1 }
  return world.picks.headD 0

/-- The content of a file that holds text. -/
def readText (path : Path) : Run (Except FileFault String) :=
  return (← files).readText path

/-- Sends for the answer of an errand. The lines that it hands on are told. -/
def send {α : Type} (errand : Errand α) : Run α := do
  let world ← get
  let (answer, left) := errand.run world.workspace
  set { world with
    files := left.files, scratches := left.scratches, journal := world.journal ++ left.strays.map Event.strayLine }
  return answer

instance : MonadLift Errand Run := ⟨send⟩

end Run

end GoldenBench
