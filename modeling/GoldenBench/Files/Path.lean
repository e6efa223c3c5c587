/-!
# Paths

A path is a text; its pieces stand between slashes. Empty pieces and the piece `.` name nothing, except that a
path may begin with `.`, and the piece `..` names the directory above. The last piece is the file name unless it
is `..`; what follows the last dot of a file name is its extension, unless nothing stands before that dot.

* `Path.join`, `Path.parent?`, `Path.withExtension` and `Path.components` work on the text: what they do not
  change stays as it was written.
-/

namespace GoldenBench

/-- A path, as it is written. -/
structure Path where
  /-- The text of the path. -/
  text : String
  deriving DecidableEq, Inhabited

namespace Path

/-- The pieces of a text between slashes, with the piece read so far, in reverse, in front. -/
def piecesFrom (held : List Char) : List Char → List (List Char)
  | [] => [held.reverse]
  | c :: rest => if c = '/' then held.reverse :: piecesFrom [] rest else piecesFrom (c :: held) rest

/-- The pieces of a path between slashes. -/
def pieces (path : Path) : List String :=
  (piecesFrom [] path.text.toList).map String.ofList

/-- The path starts at the root. -/
def isAbsolute (path : Path) : Bool :=
  path.text.toList.head? == some '/'

/-- The pieces below the root, or all pieces of a path that does not start there. -/
def body (path : Path) : List String :=
  if path.isAbsolute then path.pieces.drop 1 else path.pieces

/-- The path with these pieces below the root, or without a root. -/
def ofBody (absolute : Bool) (body : List String) : Path :=
  ⟨(if absolute then "/" else "") ++ "/".intercalate body⟩

/-- Pieces in reverse, without those at the end of the path that name nothing. A leading `.` stays. -/
def trimReversed (absolute : Bool) : List String → List String
  | [] => []
  | piece :: rest =>
    if piece = "" then trimReversed absolute rest
    else if piece = "." then if absolute || !rest.isEmpty then trimReversed absolute rest else ["."]
    else piece :: rest

/-- Pieces without those at the end that name nothing. -/
def trimBody (absolute : Bool) (body : List String) : List String :=
  (trimReversed absolute body.reverse).reverse

/-- What the pieces of a path name, in order: the root, a leading `.`, `..` and names. -/
def components (path : Path) : List String :=
  let named := path.body.zipIdx.filter fun (piece, n) =>
    piece ≠ "" && (piece ≠ "." || (n == 0 && !path.isAbsolute))
  (if path.isAbsolute then ["/"] else []) ++ named.map (·.1)

/-- The path without its last component, if it has one besides the root. -/
def parent? (path : Path) : Option Path :=
  let body := trimBody path.isAbsolute path.body
  if body.isEmpty then none else some (ofBody path.isAbsolute (trimBody path.isAbsolute body.dropLast))

/-- The path ends in a slash. -/
def endsInSlash (path : Path) : Bool :=
  path.text.toList.getLast? == some '/'

/-- The path without the slashes at its end, unless it has nothing else. -/
def withoutEndSlashes (path : Path) : Path :=
  match path.text.toList.reverse.dropWhile (· = '/') with
  | [] => path
  | rest => ⟨String.ofList rest.reverse⟩

/-- A path seen from a directory: an absolute path stays as it is. -/
def join (directory path : Path) : Path :=
  if path.isAbsolute || directory.text.isEmpty then path
  else if directory.endsInSlash then ⟨directory.text ++ path.text⟩
  else ⟨directory.text ++ "/" ++ path.text⟩

/-- A file name cut at its last dot, if something stands before that dot. -/
def splitName (name : List Char) : List Char × Option (List Char) :=
  let extension := (name.reverse.takeWhile (· ≠ '.')).reverse
  let stem := name.take (name.length - extension.length - 1)
  if extension.length = name.length || stem.isEmpty then (name, none) else (stem, some extension)

/-- The pieces before the file name and the file name, if the path has one. -/
def splitFile? (path : Path) : Option (List String × List Char) :=
  let body := trimBody path.isAbsolute path.body
  match body.getLast? with
  | none => none
  | some name => if name = ".." || name = "." then none else some (body.dropLast, name.toList)

/-- The extension of the file name. -/
def extension? (path : Path) : Option String :=
  match path.splitFile? with
  | none => none
  | some (_, name) => (splitName name).2.map String.ofList

/-- The path with an extension put after the stem of its file name, in place of any other; the empty extension is
none at all. -/
def setExtension (path : Path) (extension : String) : Path :=
  match path.splitFile? with
  | none => path
  | some (before, name) =>
    let stem := String.ofList (splitName name).1
    ofBody path.isAbsolute (before ++ [if extension.isEmpty then stem else stem ++ "." ++ extension])

/-- The path with another extension. The old extension is first cut off the end of the text, which leaves no file
name at all where the stem is a single dot. -/
def withExtension (path : Path) (extension : String) : Path :=
  match path.extension? with
  | none => path.setExtension extension
  | some old => Path.setExtension ⟨String.ofList (path.text.toList.take (path.text.length - old.length))⟩ extension

/-- An extension that would change the directory of a path. -/
def isBadExtension (extension : String) : Bool :=
  extension.toList.contains '/'

end Path

end GoldenBench
