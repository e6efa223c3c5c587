import GoldenBench.Canonical
import GoldenBench.Diff.Compare
import GoldenBench.ErrorChain
import GoldenBench.World

/-!
# Comparing texts during a run

A golden file holds the text that a fixture is known to give. It is only written where none is, and only when that
was asked for.

* `Run.compareTexts` gives the difference between two texts.
* `Golden.compare` compares a text with a golden file.
-/

namespace GoldenBench

/-- The difference between an expected and an actual text. -/
def Run.compareTexts (expected actual : String) : Run Diff := do
  let diff := Diff.compare expected actual
  if diff.coarse then Run.tell (.coarseDiff Diff.editLimit)
  return diff

namespace Golden

/-- What comes of a comparison with a golden file. -/
inductive Verdict where
  /-- The text is the known one. -/
  | matched
  /-- The text differs from the known one. -/
  | mismatched (diff : Diff)
  /-- There was no golden file, and one was written. -/
  | created (path : Path)
  /-- There is no golden file. -/
  | missing (path : Path)
  deriving DecidableEq

/-- Writes a golden file. -/
def create (actual : String) (golden : Path) : Run (Except ErrorChain Verdict) := do
  match (← Run.files).write golden actual.toUTF8 with
  | .ok files =>
    Run.setFiles files
    Run.tell (.goldenCreated golden)
    return .ok (.created golden)
  | .error fault => return .error (.because ("While creating golden file " ++ golden.text) fault.message)

/-- Compares a canonical text with a golden file. A missing file is written if `mayCreate`. -/
def compare (actual : String) (golden : Path) (mayCreate : Bool) : Run (Except ErrorChain Verdict) := do
  match ← Run.readText golden with
  | .ok expected =>
    let diff ← Run.compareTexts (Canonical.ofText expected) actual
    return .ok (if diff.isIdentical then .matched else .mismatched diff)
  | .error .notFound => if mayCreate then create actual golden else return .ok (.missing golden)
  | .error fault => return .error (.because ("While reading golden file " ++ golden.text) fault.message)

end Golden

end GoldenBench
