import GoldenBench.Comparison
import GoldenBench.Directive
import GoldenBench.Invocation
import GoldenBench.Outcome
import GoldenBench.Suite.Discovery

/-!
# Snapshot fixtures

A snapshot fixture is compiled with the options of its directive line, and the canonical form of the text that the
module emits is compared with the golden file beside the source. Whatever goes wrong with a fixture is reported
against that fixture alone.

* `Snapshot.discover` finds the fixtures, `Snapshot.runCase` runs one and `Snapshot.runSuite` all of them.
-/

namespace GoldenBench

/-- A snapshot fixture. -/
structure SnapshotCase where
  /-- Its name. -/
  name : String
  /-- Its source. -/
  source : Path
  /-- Its golden file. -/
  golden : Path
  deriving DecidableEq

namespace Snapshot

/-- The fixture of a source file. -/
def caseOf (environment : Environment) (file : SourceFile) : SnapshotCase :=
  ⟨file.name, file.path, file.path.withExtension environment.goldenExtension⟩

/-- Finds the fixtures that a filter accepts. An extension that cannot be put after a stem ends the run as soon as
there is a source. -/
def discover (environment : Environment) (filter : Filter) : Run (Except Abort (List SnapshotCase)) := do
  let found ← Run.sourceFiles environment.fixturesDirectory environment.sourceExtension
  if !found.isEmpty && Path.isBadExtension environment.goldenExtension then
    return .error (.slashInExtension environment.goldenExtension)
  return .ok ((found.map (caseOf environment)).filter fun fixture => filter.accepts fixture.name)

/-- The outcome of a comparison with a golden file. -/
def verdictOutcome (golden : Path) (color : Bool) : Except ErrorChain Golden.Verdict → Outcome
  | .ok .matched => .passed
  | .ok (.created path) => .created path
  | .ok (.missing path) =>
    .failure ("no golden file at " ++ path.text ++ "; run again with --create to record the current output")
  | .ok (.mismatched diff) =>
    .failureWith ("output differs from " ++ golden.text ++ " in " ++ toString diff.changes ++ " places")
      (diff.render color)
  | .error chain => .failureWith "could not check the golden file" chain.inline

/-- The outcome for a module: it must be valid, and its canonical text is the known one. -/
def checkModule (fixture : SnapshotCase) (options : RunOptions) (made : Module) : Run Outcome := do
  match made.validity, made.text with
  | .error chain, _ => return .failureWith "module failed validation" chain.inline
  | .ok (), .error chain => return .failureWith "could not emit text" chain.inline
  | .ok (), .ok text =>
    return verdictOutcome fixture.golden options.color
      (← Golden.compare (Canonical.ofText text) fixture.golden options.create)

/-- Runs one fixture. -/
def runCase (subject : Subject) (fixture : SnapshotCase) (options : RunOptions) : Run Finding := do
  Run.tell (.fixtureStarted subject.name fixture.name)
  match ← Run.readText fixture.source with
  | .error fault =>
    return ⟨fixture.name, .failureWith ("could not read " ++ fixture.source.text) fault.message, []⟩
  | .ok source =>
    match Directive.options source.toList with
    | .error fault => return ⟨fixture.name, .failure ("bad directive line: " ++ fault.message), []⟩
    | .ok directed =>
      let invocation ← Invocation.run subject.compiler (.file fixture.source) directed
      let notes := invocation.notes options.color
      match invocation.result with
      | .error failure => return ⟨fixture.name, .failureWith "compilation failed" failure, notes⟩
      | .ok made => return ⟨fixture.name, ← checkModule fixture options made, notes⟩

/-- The name of the suite. -/
def suite : String := "compiler"

/-- Runs every fixture that the filter accepts. -/
def runSuite (subject : Subject) (environment : Environment) (options : RunOptions) :
    Run (Except Abort (List Finding)) := do
  match ← discover environment options.filter with
  | .error abort => return .error abort
  | .ok fixtures => return .ok (← fixtures.mapM fun fixture => runCase subject fixture options)

end Snapshot

end GoldenBench
