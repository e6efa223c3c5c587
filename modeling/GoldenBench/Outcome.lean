import GoldenBench.Files.Path
import GoldenBench.Text.Lines

/-!
# Outcomes of tests

* `Outcome` is what a test can come to, `Report` a finished test with what is worth showing beside its outcome.
-/

namespace GoldenBench

/-- What a test came to. -/
inductive Outcome where
  /-- All is well. -/
  | passed
  /-- A missing golden file was written. -/
  | created (path : Path)
  /-- Something is wrong: one line that says what, and anything longer. -/
  | failed (reason : String) (detail : Option String)
  /-- The test cannot run here. -/
  | skipped (reason : String)
  deriving DecidableEq

namespace Outcome

/-- A failure with a reason only. -/
def failure (reason : String) : Outcome := .failed reason none

/-- A failure with a reason and a detail. -/
def failureWith (reason detail : String) : Outcome := .failed reason (some detail)

/-- The test passed. -/
def isPassed : Outcome → Bool
  | .passed => true
  | _ => false

/-- A golden file was written. -/
def isCreated : Outcome → Bool
  | .created _ => true
  | _ => false

/-- The test failed. -/
def isFailed : Outcome → Bool
  | .failed .. => true
  | _ => false

/-- The test was skipped. -/
def isSkipped : Outcome → Bool
  | .skipped _ => true
  | _ => false

end Outcome

/-- A finished test. -/
structure Report where
  /-- The subject, the suite and the fixture, with slashes between them. -/
  name : String
  /-- What the test came to. -/
  outcome : Outcome
  /-- What is worth showing even when the test passed. -/
  notes : List String
  deriving DecidableEq

/-- A finished test of a suite, before it is attributed to a subject. -/
structure Finding where
  /-- The fixture. -/
  fixture : String
  /-- What the test came to. -/
  outcome : Outcome
  /-- What is worth showing even when the test passed. -/
  notes : List String
  deriving DecidableEq

/-- A finding attributed to a subject and a suite. -/
def Finding.report (finding : Finding) (subject suite : String) : Report :=
  ⟨subject ++ "/" ++ suite ++ "/" ++ finding.fixture, finding.outcome, finding.notes⟩

end GoldenBench
