import GoldenBench.Environment
import GoldenBench.World

/-!
# Finding fixtures

A fixture is a source file below a directory. Its name is its path from there without the extension.

* `Run.sourceFiles` finds all sources below a directory, in the order of the file tree.
-/

namespace GoldenBench

/-- What ends a whole run at once. -/
inductive Abort where
  /-- The extension of golden files has a slash in it. -/
  | slashInExtension (extension : String)
  deriving DecidableEq

/-- The wording of what ends a run. -/
def Abort.message : Abort → String
  | .slashInExtension extension => "extension cannot contain path separators: " ++ Text.quote extension

/-- A source of a fixture. -/
structure SourceFile where
  /-- Its path below the directory of fixtures, without the extension. -/
  name : String
  /-- Its path. -/
  path : Path
  deriving DecidableEq

namespace SourceFile

/-- The path that leads to a file from the directory that it was found in. -/
def relative (key : Key) : Path :=
  ⟨"/".intercalate key⟩

/-- The name of a fixture: the components of its path without the extension. -/
def nameOf (key : Key) : String :=
  "/".intercalate ((relative key).withExtension "").components

/-- The path of a file that was found below a directory. -/
def pathOf (root : Path) (key : Key) : Path :=
  if key.isEmpty then root else root.join (relative key)

/-- The file that a key leads to from a directory. -/
def ofKey (root : Path) (key : Key) : SourceFile :=
  ⟨nameOf key, pathOf root key⟩

end SourceFile

/-- The files below a directory that have an extension. -/
def Store.sourceFiles (files : Store) (root : Path) (extension : String) : List SourceFile :=
  ((files.filesUnder root).map (SourceFile.ofKey root)).filter fun file => file.path.extension? == some extension

/-- The files below a directory that have an extension. A directory that does not exist holds none. -/
def Run.sourceFiles (root : Path) (extension : String) : Run (List SourceFile) := do
  let files ← Run.files
  if files.holds root then return files.sourceFiles root extension
  Run.tell (.directoryMissing root)
  return []

end GoldenBench
