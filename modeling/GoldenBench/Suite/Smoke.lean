import GoldenBench.Environment
import GoldenBench.Invocation
import GoldenBench.Outcome

/-!
# The smoke test

A small source held in memory must compile without any diagnostics, survive the optimizer and still emit text.
Diagnostics of the optimizer are shown and do not fail the test.

* `Smoke.run` is the test, `Smoke.runSuite` the test if the filter accepts its name.
-/

namespace GoldenBench.Smoke

/-- The name of the suite. -/
def suite : String := "smoke"

/-- The name of the test. -/
def name : String := "string-compile"

/-- The name that the source goes by. -/
def fileName : String := "smoke.ts"

/-- The outcome for what an optimized module emits. -/
def checkText : Except ErrorChain String → Outcome
  | .ok text => if Text.isAllBlank text.toList then .failure "optimized module emitted no text" else .passed
  | .error chain => .failureWith "could not emit text" chain.inline

/-- Compiles and optimizes the source. -/
def run (subject : Subject) (environment : Environment) (color : Bool) : Run Finding := do
  let invocation ← Invocation.run subject.compiler (.memory fileName environment.smokeSource) .base
  let notes := invocation.notes color
  match invocation.result with
  | .error failure => return ⟨name, .failureWith "compilation failed" failure, notes⟩
  | .ok made =>
    if !invocation.diagnostics.isEmpty then
      return ⟨name, .failure ("expected no diagnostics, got " ++ toString invocation.diagnostics.length), notes⟩
    match ← made.optimizeOnce with
    | .error chain => return ⟨name, .failureWith "optimization failed" chain.inline, notes⟩
    | .ok ([], emitted) => return ⟨name, checkText emitted.text, notes⟩
    | .ok (diagnostics, emitted) =>
      Run.tell (.optimizerReported subject.name diagnostics.length)
      return ⟨name, checkText emitted.text, notes ++ [Diagnostic.format color diagnostics]⟩

/-- Runs the test if the filter accepts its name. -/
def runSuite (subject : Subject) (environment : Environment) (options : RunOptions) : Run (List Finding) := do
  if !options.filter.accepts name then return []
  Run.tell (.smokeStarted subject.name)
  return [← run subject environment options.color]

end GoldenBench.Smoke
