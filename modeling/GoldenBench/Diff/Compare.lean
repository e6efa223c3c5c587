import GoldenBench.Diff.Search

/-!
# Comparing texts

What two texts have in common at their start and at their end is set aside. If the rest takes more edits than the
limit it is shown as one removal and one addition.

* `Diff.compare` gives the difference between an expected and an actual text.
-/

namespace GoldenBench.Diff

/-- The number of characters that two texts have in common at their start. -/
def agreement : List Char → List Char → Nat
  | c :: a, e :: b => if c = e then agreement a b + 1 else 0
  | _, _ => 0

/-- Everything of one text removed, then everything of the other added. -/
def replaceAll (a b : List Char) : List Edit :=
  mark .removed a ++ mark .added b

/-- The difference between an expected and an actual text. -/
def compareChars (expected actual : List Char) : Diff :=
  let start := agreement expected actual
  let restE := expected.drop start
  let restA := actual.drop start
  let finish := agreement restE.reverse restA.reverse
  let midE := restE.take (restE.length - finish)
  let midA := restA.take (restA.length - finish)
  let (edits, coarse) := match script midE.toArray midA.toArray with
    | .ok (some edits) => (edits, false)
    | _ => (replaceAll midE midA, true)
  ⟨group (mark .unchanged (expected.take start) ++ edits ++
    mark .unchanged (restE.drop (restE.length - finish))), coarse⟩

/-- The difference between an expected and an actual text. -/
def compare (expected actual : String) : Diff :=
  compareChars expected.toList actual.toList

end GoldenBench.Diff
