import GoldenBench.Files.Path

/-!
# File trees

A `Store` is a file tree as a value. Its entries are kept by the list of names that leads to them from the root,
in the order of those lists, so a directory comes just before what lies in it and siblings are in the order of
their names. The root is a directory without an entry of its own.

* `Store.find?` looks an entry up and `Store.insert` sets one; `find?_insert` ties the two together.
* `Store.locate` follows a path, links included, as far as it leads.
* `Store.read` and `Store.write` are what the outside sees; the faults are those of a plain file system.
* `Store.filesUnder` lists what lies below a directory.
-/

namespace GoldenBench

/-- The names that lead from the root to an entry. -/
abbrev Key := List String

/-- The path from the root to an entry. -/
def Key.path (key : Key) : Path :=
  .ofBody true key

/-- Contents are compared byte by byte. -/
instance instDecidableEqContent : DecidableEq ByteArray := ByteArray.decEq

/-- What a file tree holds at a place. -/
inductive Entry where
  /-- A regular file. -/
  | file (content : ByteArray)
  /-- A directory. -/
  | directory
  /-- A symbolic link. -/
  | link (target : Path)
  deriving DecidableEq

/-- Why a file could not be read or written. -/
inductive FileFault where
  /-- Nothing is there. -/
  | notFound
  /-- A path leads through something that is no directory. -/
  | notDirectory
  /-- A directory stands where a file should. -/
  | isDirectory
  /-- A name is too long. -/
  | nameTooLong
  /-- Links lead from one to another for too long. -/
  | tooManyLinks
  /-- A file that should hold text does not. -/
  | notText
  /-- A file may not be used so. -/
  | denied
  /-- A path holds a zero byte. -/
  | zeroInPath
  /-- What a program is given holds a zero byte. -/
  | zeroInCommand
  deriving DecidableEq

/-- The wording of a fault. -/
def FileFault.reason : FileFault → String
  | .notFound => "No such file or directory"
  | .notDirectory => "Not a directory"
  | .isDirectory => "Is a directory"
  | .nameTooLong => "File name too long"
  | .tooManyLinks => "Too many levels of symbolic links"
  | .notText => "stream did not contain valid UTF-8"
  | .denied => "Permission denied"
  | .zeroInPath => "file name contained an unexpected NUL byte"
  | .zeroInCommand => "nul byte found in provided data"

/-- The number of a fault, if it has one. -/
def FileFault.number? : FileFault → Option Nat
  | .notFound => some 2
  | .notDirectory => some 20
  | .isDirectory => some 21
  | .nameTooLong => some 36
  | .tooManyLinks => some 40
  | .denied => some 13
  | .notText | .zeroInPath | .zeroInCommand => none

/-- The wording of a fault with its number. -/
def FileFault.message (fault : FileFault) : String :=
  match fault.number? with
  | some n => fault.reason ++ " (os error " ++ toString n ++ ")"
  | none => fault.reason

/-- One list of names comes before another: by the first name in which they differ, a shorter list first. -/
def Key.before : Key → Key → Bool
  | [], [] => false
  | [], _ :: _ => true
  | _ :: _, [] => false
  | a :: as, b :: bs => if a = b then Key.before as bs else decide (a < b)

/-- A file tree. -/
structure Store where
  /-- The entries below the root, in the order of their keys. -/
  entries : List (Key × Entry)
  /-- The directories that nothing new may be put into. -/
  sealed : List Key
  deriving DecidableEq

namespace Store

/-- A file tree with nothing in it. -/
def empty : Store := ⟨[], []⟩

/-- The entry with a key among entries. -/
def lookup (key : Key) : List (Key × Entry) → Option Entry
  | [] => none
  | (k, entry) :: rest => if key = k then some entry else lookup key rest

/-- Sets the entry with a key among entries, in its place by order. -/
def place (key : Key) (entry : Entry) : List (Key × Entry) → List (Key × Entry)
  | [] => [(key, entry)]
  | (k, e) :: rest =>
    if key = k then (key, entry) :: rest
    else if key.before k then (key, entry) :: (k, e) :: rest
    else (k, e) :: place key entry rest

/-- The entry at a place. -/
def find? (store : Store) (key : Key) : Option Entry :=
  if key.isEmpty then some .directory else lookup key store.entries

/-- Sets the entry at a place. -/
def insert (store : Store) (key : Key) (entry : Entry) : Store :=
  { store with entries := place key entry store.entries }

theorem lookup_place (key k : Key) (entry : Entry) (entries : List (Key × Entry)) :
    lookup key (place k entry entries) = if key = k then some entry else lookup key entries := by
  induction entries with
  | nil => simp [place, lookup]
  | cons head rest ih =>
    obtain ⟨k', e'⟩ := head
    simp only [place]
    split
    · rename_i h
      subst h
      by_cases hk : key = k <;> simp [lookup, hk]
    · split
      · by_cases hk : key = k <;> simp [lookup, hk]
      · by_cases hk' : key = k'
        · subst hk'
          rename_i h _
          simp [lookup, Ne.symm h]
        · simp [lookup, hk', ih]

theorem find?_insert (store : Store) (key k : Key) (entry : Entry) (h : k ≠ []) :
    (store.insert k entry).find? key = if key = k then some entry else store.find? key := by
  by_cases hk : key = []
  · subst hk
    simp [find?, Ne.symm h]
  · simp [find?, insert, hk, lookup_place]

/-- Removes the entry at a place and all that lies below it. -/
def remove (store : Store) (key : Key) : Store :=
  { store with entries := store.entries.filter fun (k, _) => !key.isPrefixOf k }

/-- Makes a directory and the directories above it, where nothing is yet. -/
def makeDirectories (store : Store) (key : Key) : Store :=
  ((List.range key.length).map fun n => key.take (n + 1)).foldl
    (fun store k => if (store.find? k).isSome then store else store.insert k .directory) store

/-- Sets an entry and makes the directories above it. -/
def plant (store : Store) (key : Key) (entry : Entry) : Store :=
  (store.makeDirectories key.dropLast).insert key entry

/-- Where a path leads. -/
inductive Place where
  /-- To an entry. -/
  | found (key : Key) (entry : Entry)
  /-- To a name that its directory does not hold. -/
  | absent (key : Key)
  deriving DecidableEq

/-- The most links that a path may lead through. -/
def linkLimit : Nat := 40

/-- The most bytes of a name. -/
def nameLimit : Nat := 255

/-- The most bytes of a path. -/
def pathLimit : Nat := 4095

/-- Follows pieces of a path from a place. A link at the very end is followed on request only. -/
def locateFrom (store : Store) (followLast : Bool) (links : Nat) (here : Key) (todo : List String) :
    Except FileFault Place :=
  match todo with
  | [] =>
    match store.find? here with
    | some entry => .ok (.found here entry)
    | none => .error .notFound
  | piece :: rest =>
    match store.find? here with
    | none => .error .notFound
    | some (.file _) => .error .notDirectory
    | some (.link _) => .error .notDirectory
    | some .directory =>
      if piece = "" || piece = "." then store.locateFrom followLast links here rest
      else if piece = ".." then store.locateFrom followLast links here.dropLast rest
      else if nameLimit < piece.utf8ByteSize then .error .nameTooLong
      else
        match store.find? (here ++ [piece]) with
        | none => if rest.isEmpty then .ok (.absent (here ++ [piece])) else .error .notFound
        | some (.link target) =>
          if rest.isEmpty && !followLast then .ok (.found (here ++ [piece]) (.link target))
          else
            match links with
            | 0 => .error .tooManyLinks
            | links + 1 =>
              store.locateFrom followLast links (if target.isAbsolute then [] else here) (target.pieces ++ rest)
        | some _ => store.locateFrom followLast links (here ++ [piece]) rest
termination_by (links, todo.length)

end Store

/-- What is wrong with a path, whatever tree it is followed in. -/
def Path.fault? (path : Path) : Option FileFault :=
  if path.text.contains '\x00' then some .zeroInPath
  else if path.text.isEmpty then some .notFound
  else if Store.pathLimit < path.text.utf8ByteSize then some .nameTooLong
  else none

namespace Store

/-- Follows a path from the root. -/
def locate (store : Store) (followLast : Bool) (path : Path) : Except FileFault Place :=
  match path.fault? with
  | some fault => .error fault
  | none => store.locateFrom followLast linkLimit [] path.pieces

/-- The content of a file. -/
def read (store : Store) (path : Path) : Except FileFault ByteArray :=
  match store.locate true path with
  | .ok (.found _ (.file content)) => .ok content
  | .ok (.found _ _) => .error .isDirectory
  | .ok (.absent _) => .error .notFound
  | .error fault => .error fault

/-- The content of a file that holds text. -/
def readText (store : Store) (path : Path) : Except FileFault String :=
  match store.read path with
  | .ok content =>
    match String.fromUTF8? content with
    | some text => .ok text
    | none => .error .notText
  | .error fault => .error fault

/-- Nothing new may be put into the directory of a place. -/
def isSealed (store : Store) (key : Key) : Bool :=
  store.sealed.contains key.dropLast

/-- The tree after a file was given a content. The file is made if its directory exists and is not sealed. A path that
ends in a slash can only name a directory. -/
def write (store : Store) (path : Path) (content : ByteArray) : Except FileFault Store :=
  if path.endsInSlash then
    match path.fault?, store.locate false path.withoutEndSlashes with
    | some fault, _ => .error fault
    | none, .ok _ => .error .isDirectory
    | none, .error fault => .error fault
  else
    match store.locate true path with
    | .ok (.found key (.file _)) => .ok (store.insert key (.file content))
    | .ok (.found _ _) => .error .isDirectory
    | .ok (.absent key) => if store.isSealed key then .error .denied else .ok (store.insert key (.file content))
    | .error fault => .error fault

/-- A path leads to something. -/
def holds (store : Store) (path : Path) : Bool :=
  match store.locate true path with
  | .ok (.found _ _) => true
  | _ => false

/-- A path leads to a directory. -/
def holdsDirectory (store : Store) (path : Path) : Bool :=
  match store.locate true path with
  | .ok (.found _ .directory) => true
  | _ => false

/-- The keys of the regular files below a place, seen from there. -/
def filesBelow (store : Store) (key : Key) : List Key :=
  store.entries.filterMap fun (k, entry) =>
    match entry with
    | .file _ => if key.isPrefixOf k && k.length ≠ key.length then some (k.drop key.length) else none
    | _ => none

/-- The regular files that a path leads to, by their keys as seen from it: the files below a directory in the
order of their keys, or the one file that the path names itself. Links are followed on the way to the directory
and nowhere else. Every directory is taken to be one that can be listed. -/
def filesUnder (store : Store) (path : Path) : List Key :=
  match store.locate true path with
  | .ok (.found key .directory) => store.filesBelow key
  | .ok (.found _ (.file _)) =>
    match store.locate false path with
    | .ok (.found _ (.file _)) => [[]]
    | _ => []
  | _ => []

end Store

end GoldenBench
