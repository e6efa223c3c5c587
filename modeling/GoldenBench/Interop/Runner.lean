import GoldenBench.Interop.Check
import GoldenBench.Outcome

/-!
# Runners

A runner is what an interop fixture is paired with: steps that poke at the instance, one after another. What a call
returned decides how a runner goes on.

* `Runner.run` performs the steps on an instance.
* `Runner.outcome` is the verdict: a runner passes when it comes to its end and every check on the way held.
-/

namespace GoldenBench

/-- What a runner does. -/
inductive Runner where
  /-- Comes to the end. -/
  | finish
  /-- Gives up with an error. -/
  | fail (chain : ErrorChain)
  /-- Is interrupted, with a message or without one. -/
  | panic (message : Option String)
  /-- Checks a condition and goes on. -/
  | expect (site : String) (holds : Bool) (what : String) (next : Runner)
  /-- Checks that two data are equal and goes on. -/
  | compare (site : String) (actual expected : Datum) (what : String) (next : Runner)
  /-- Calls an export with whole numbers and goes on with its result. -/
  | callI32 (name : String) (arguments : List Int32) (next : Int32 → Runner)
  /-- Goes on with the names of the exports. -/
  | exports (next : List String → Runner)

namespace Runner

/-- Performs the steps on an instance, up to the end or the first failure. -/
def run : Runner → Checks → Except Failure Unit × Checks
  | .finish, checks => (.ok (), checks)
  | .fail chain, checks => (.error (.error chain), checks)
  | .panic message, checks => (.error (.panic message), checks)
  | .expect site holds what next, checks => next.run (checks.expect site holds what)
  | .compare site actual expected what next, checks => next.run (checks.compare site actual expected what)
  | .callI32 name arguments next, checks =>
    match checks.callI32 name arguments with
    | (.ok result, checks) => (next result).run checks
    | (.error failure, checks) => (.error failure, checks)
  | .exports next, checks => (next checks.live.exports).run checks

/-- The verdict on an ending and the texts of the checks that failed. -/
def verdict (ending : Except Failure Unit) (failed : List String) : Outcome :=
  match ending with
  | .error (.panic message) => .failed "runner panicked" (some (Failure.panic message).text)
  | .error (.error chain) =>
    .failed "runner returned an error" (some (Text.joinLines (chain.inline :: failed)))
  | .ok () =>
    if failed.isEmpty then .passed
    else .failed (toString failed.length ++ " assertion" ++ (if failed.length = 1 then "" else "s") ++ " failed")
      (some (Text.joinLines failed))

/-- The verdict on an instance. -/
def outcome (runner : Runner) (live : Instance) : Outcome :=
  let (ending, checks) := runner.run (.start live)
  verdict ending (checks.failed.map FailedCheck.text)

end Runner

end GoldenBench
