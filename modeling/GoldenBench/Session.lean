import GoldenBench.Report.Summary
import GoldenBench.Suite.Interop
import GoldenBench.Suite.RoundTrip
import GoldenBench.Suite.Smoke
import GoldenBench.Suite.Snapshot

/-!
# Running every suite against every subject

Subjects run one after another. Of each, the snapshot fixtures come first, then the interop fixtures, the smoke
test and the round trip.

* `Session.runSubject` runs one subject, `Session.runAll` all of them.
-/

namespace GoldenBench.Session

/-- Runs every suite against a subject. -/
def runSubject (subject : Subject) (environment : Environment) (options : RunOptions) (registry : Registry) :
    Run (Except Abort Summary) := do
  Run.tell (.subjectStarted subject.name)
  match ← Snapshot.runSuite subject environment options with
  | .error abort => return .error abort
  | .ok snapshots =>
    let interop ← Interop.runSuite subject environment options registry
    let smoke ← Smoke.runSuite subject environment options
    let roundTrip ← RoundTrip.runSuite subject options
    let reports (suite : String) (findings : List Finding) : List Report :=
      findings.map (·.report subject.name suite)
    return .ok ⟨subject.name, reports Snapshot.suite snapshots ++ reports Interop.suite interop ++
      reports Smoke.suite smoke ++ reports RoundTrip.suite roundTrip⟩

/-- Runs every suite against one subject after another. -/
def runAll (environment : Environment) (options : RunOptions) (registry : Registry) :
    List Subject → Run (Except Abort (List Summary))
  | [] => return .ok []
  | subject :: rest => do
    match ← runSubject subject environment options registry with
    | .error abort => return .error abort
    | .ok summary =>
      match ← runAll environment options registry rest with
      | .error abort => return .error abort
      | .ok summaries => return .ok (summary :: summaries)

end GoldenBench.Session
