import GoldenBench.Ansi

/-!
# Differences between two texts

A `Diff` is a list of segments, each unchanged, added or removed. Leaving out what was added gives the expected
text (`Diff.expected`), leaving out what was removed the actual one (`Diff.actual`).

* `Diff.ofEdits` groups single characters into segments: neighbours of one kind come together.
* `Diff.render` shows a difference, additions in green and removals in red.
-/

namespace GoldenBench

namespace Diff

/-- What became of a piece of text. -/
inductive Kind where
  /-- It is in both texts. -/
  | unchanged
  /-- It is in the actual text only. -/
  | added
  /-- It is in the expected text only. -/
  | removed
  deriving DecidableEq

/-- One character and what became of it. -/
abbrev Edit := Kind × Char

/-- A piece of text and what became of it. -/
structure Segment where
  /-- What became of the piece. -/
  kind : Kind
  /-- The characters of the piece. -/
  chars : List Char
  deriving DecidableEq

/-- The text of a segment. -/
def Segment.text (segment : Segment) : String :=
  String.ofList segment.chars

/-- Puts a character in front of segments: into the first one, if that is of its kind. -/
def attach (edit : Edit) : List Segment → List Segment
  | [] => [⟨edit.1, [edit.2]⟩]
  | segment :: rest =>
    if segment.kind = edit.1 then ⟨edit.1, edit.2 :: segment.chars⟩ :: rest
    else ⟨edit.1, [edit.2]⟩ :: segment :: rest

/-- Single characters grouped into segments. -/
def group (edits : List Edit) : List Segment :=
  edits.foldr attach []

/-- A text, all of one kind. -/
def mark (kind : Kind) (text : List Char) : List Edit :=
  text.map fun c => (kind, c)

end Diff

/-- The difference between an expected and an actual text. -/
structure Diff where
  /-- The segments, in the order of the texts. -/
  segments : List Diff.Segment
  /-- The texts differ too much to be told apart character by character. -/
  coarse : Bool
  deriving DecidableEq

namespace Diff

/-- The characters of the segments that are not of a kind. -/
def without (kind : Kind) (segments : List Segment) : List Char :=
  (segments.filter (·.kind ≠ kind)).flatMap (·.chars)

/-- The expected text. -/
def expected (diff : Diff) : List Char :=
  without .added diff.segments

/-- The actual text. -/
def actual (diff : Diff) : List Char :=
  without .removed diff.segments

/-- Nothing was added and nothing removed. -/
def isIdentical (diff : Diff) : Bool :=
  diff.segments.all (·.kind = .unchanged)

/-- The number of segments that were added or removed. -/
def changes (diff : Diff) : Nat :=
  (diff.segments.filter (·.kind ≠ .unchanged)).length

/-- A segment as it is shown. -/
def Segment.render (color : Bool) (segment : Segment) : List Char :=
  match segment.kind with
  | .unchanged => segment.chars
  | .added => Ansi.paintChars color .green segment.chars
  | .removed => Ansi.paintChars color .red segment.chars

/-- The difference as it is shown: additions green, removals red, all else as it is. -/
def render (diff : Diff) (color : Bool) : String :=
  String.ofList (diff.segments.flatMap (·.render color))

end Diff

end GoldenBench
