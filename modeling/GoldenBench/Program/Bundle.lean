import GoldenBench.Files.Store
import GoldenBench.Json.Printer
import GoldenBench.Json.Reader

/-!
# Bundles

A bundle is a file tree as one JSON object: each path with the text of its file.

* `Bundle.read?` reads a file tree, `Bundle.changes` writes what is new in one.
-/

namespace GoldenBench.Bundle

/-- Puts a file of a bundle into a file tree. -/
def add (store : Store) (path : String) : Json → Option Store
  | .str text => some (store.plant ((Path.components ⟨path⟩).filter (· ≠ "/")) (.file text.toUTF8))
  | _ => none

/-- Reads a file tree; no text at all stands for an empty one. -/
def read? (text : String) : Option Store :=
  if text.isEmpty then some .empty
  else
    match Json.parse text.toList with
    | .ok (.obj fields) => fields.foldlM (fun store (path, content) => add store path content) Store.empty
    | _ => none

/-- The files of a tree that another one does not hold in the same way, as a bundle. -/
def changes (before after : Store) : Json :=
  .obj (Json.Fields.insertAll [] (after.entries.filterMap fun (key, entry) =>
    match entry with
    | .file content =>
      if before.find? key = some entry then none
      else (String.fromUTF8? content).map fun text => ("/".intercalate key, .str text)
    | _ => none))

end GoldenBench.Bundle
