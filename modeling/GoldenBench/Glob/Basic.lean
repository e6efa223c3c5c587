/-!
# Glob patterns

A pattern is matched against the bytes of a name, from its first byte to its last. Where a match may stand after
some items is kept as one mark per position of the name, the position before the first byte included, so no item
is tried twice at a place.

* `Glob.Item.reach` and `Glob.reachAll` move the marks over an item and over a row of items.
* `Glob.accepts` says whether a pattern matches a name.
-/

namespace GoldenBench

namespace Glob

/-- A set of bytes: ranges with both ends, and whether the set holds what lies outside them. -/
structure ByteSet where
  /-- The set holds the bytes outside the ranges. -/
  negated : Bool
  /-- The ranges. -/
  ranges : List (UInt8 × UInt8)
  deriving DecidableEq

/-- The byte is in the set. -/
def ByteSet.holds (set : ByteSet) (byte : UInt8) : Bool :=
  set.ranges.any (fun (low, high) => low ≤ byte && byte ≤ high) != set.negated

/-- A piece of a pattern. -/
inductive Item where
  /-- A character, by its bytes. -/
  | char (c : Char)
  /-- One byte, not a line feed. -/
  | any
  /-- Any number of bytes without a line feed. -/
  | run
  /-- One byte of a set. -/
  | oneOf (set : ByteSet)
  /-- Directories at the start: nothing, a slash, or anything up to a slash. -/
  | leading
  /-- Directories in the middle: a slash, or anything between two slashes. -/
  | inner
  /-- Everything below a directory: a slash and what follows. -/
  | trailing
  /-- One of several rows of items. -/
  | group (branches : List (List Item))

/-- The byte of a slash. -/
def slash : UInt8 := 0x2F

/-- The byte of a line feed. -/
def lineFeed : UInt8 := 0x0A

/-- The bytes of a character. -/
def bytesOf (c : Char) : List UInt8 :=
  (String.singleton c).toUTF8.toList

/-- The positions of a name that a match may have come to: a mark for the start and one for every byte. -/
abbrev Marks := List Bool

/-- Moves marks over one byte that passes a test. -/
def pass (test : UInt8 → Bool) (name : List UInt8) (marks : Marks) : Marks :=
  false :: List.zipWith (fun byte mark => mark && test byte) name marks

/-- Moves marks over any number of bytes that are not line feeds; `carried` says whether a match has come to the
position before. -/
def spread (carried : Bool) : List UInt8 → Marks → Marks
  | byte :: name, mark :: marks => (carried || mark) :: spread ((carried || mark) && byte != lineFeed) name marks
  | _, marks => marks.map (carried || ·)

/-- The marks of either. -/
def either (a b : Marks) : Marks :=
  List.zipWith (· || ·) a b

mutual

/-- The item stands for no condition at all. -/
def Item.isVacant : Item → Bool
  | .group branches => allVacant branches
  | _ => false

/-- Every branch stands for no condition at all. -/
def allVacant : List (List Item) → Bool
  | [] => true
  | branch :: rest => isVacantBranch branch && allVacant rest

/-- A row of items stands for no condition at all. -/
def isVacantBranch : List Item → Bool
  | [] => true
  | item :: rest => item.isVacant && isVacantBranch rest

end

mutual

/-- Moves marks over an item. A group of which every branch is vacant is passed over; otherwise its vacant
branches do not count. -/
def Item.reach (name : List UInt8) (marks : Marks) : Item → Marks
  | .char c => (bytesOf c).foldl (fun marks byte => pass (· == byte) name marks) marks
  | .any => pass (· != lineFeed) name marks
  | .run => spread false name marks
  | .oneOf set => pass set.holds name marks
  | .leading => either marks (pass (· == slash) name (spread false name marks))
  | .inner =>
    let first := pass (· == slash) name marks
    either first (pass (· == slash) name (spread false name first))
  | .trailing => spread false name (pass (· == slash) name marks)
  | .group branches =>
    if allVacant branches then marks else reachAny name marks (marks.map fun _ => false) branches

/-- Moves marks over each branch that is not vacant; `found` holds the marks of the branches before. -/
def reachAny (name : List UInt8) (marks found : Marks) : List (List Item) → Marks
  | [] => found
  | branch :: rest =>
    reachAny name marks (if isVacantBranch branch then found else either found (reachAll name marks branch)) rest

/-- Moves marks over a row of items. -/
def reachAll (name : List UInt8) (marks : Marks) : List Item → Marks
  | [] => marks
  | item :: rest => reachAll name (item.reach name marks) rest

end

end Glob

/-- A glob pattern. -/
structure Glob where
  /-- The items of the pattern, in order. -/
  items : List Glob.Item

namespace Glob

/-- The pattern matches a name. A pattern that names directories at the start and nothing else matches every name
without a line feed. -/
def accepts (glob : Glob) (name : String) : Bool :=
  let bytes := name.toUTF8.toList
  let start := true :: bytes.map fun _ => false
  let items := match glob.items with
    | [.leading] => [.run]
    | items => items
  (reachAll bytes start items).getLast? == some true

end Glob

end GoldenBench
