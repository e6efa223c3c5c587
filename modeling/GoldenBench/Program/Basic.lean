import GoldenBench.Configuration.Reader
import GoldenBench.External.Converter
import GoldenBench.Program.CommandLine
import GoldenBench.Program.Shipped
import GoldenBench.Report.Layout
import GoldenBench.Session

/-!
# The program

The program lists or runs what a configuration names. Everything that it writes follows from how it ended.

* `Program.run` does what it is asked for.
* `Ending.status`, `Ending.output` and `Ending.messages` are the exit status and what is written.
-/

namespace GoldenBench

/-- How the program ended. -/
inductive Ending where
  /-- The lines that were asked for. -/
  | listed (lines : List String)
  /-- What came of the subjects. -/
  | finished (summaries : List Summary)
  /-- An error. -/
  | failed (chain : ErrorChain)
  /-- A run that could not go on. -/
  | aborted (abort : Abort)
  /-- A command line that makes no sense, or that asks for help. -/
  | misused (fault : UsageFault)

namespace Ending

/-- The exit status. -/
def status : Ending → Nat
  | .listed _ => 0
  | .finished summaries => if summaries.all Summary.allPassed then 0 else 1
  | .failed _ => 2
  | .aborted _ => 101
  | .misused .helpAsked => 0
  | .misused _ => 2

/-- Lines, each with its end. -/
def ended (lines : List String) : String :=
  String.join (lines.map (· ++ "\n"))

/-- What is written as output. -/
def output : Ending → String
  | .listed lines => ended lines
  | .misused .helpAsked => ended [UsageFault.helpAsked.message]
  | _ => ""

/-- An entry of the log: lines after the first stand four places to the right. -/
def logEntry (level text : String) : String :=
  level ++ ": " ++ "\n    ".intercalate (text.splitOn "\n")

/-- What is written as messages, with the time that each subject took: every report, and then a line on each
subject. -/
def messages (color : Bool) (elapsed : String → Elapsed) : Ending → String
  | .finished summaries =>
    ended (summaries.flatMap fun summary => summary.reports.map (·.text color)) ++ "\n" ++
      ended (summaries.map fun summary => summary.line (elapsed summary.subject))
  | .failed chain => ended [logEntry "ERROR" chain.report]
  | .aborted abort => ended [abort.message]
  | .misused .helpAsked => ""
  | .misused fault => ended [logEntry "ERROR" fault.message]
  | .listed _ => ""

end Ending

namespace Program

/-- The configuration that a request names, seen from a directory, or else the shipped one. -/
def configuration (request : Request) (here : Path) : Run (Except ErrorChain Configuration) := do
  Run.tell (.configurationLoaded (request.configuration.getD Shipped.configurationPath))
  match request.configuration with
  | some path => return (← Configuration.load path here).mapError Configuration.Fault.chain
  | none =>
    Run.setFiles (Shipped.addTo (← Run.files))
    return .ok Shipped.configuration

/-- The line on an interop fixture. -/
def interopLine (registry : Registry) (fixture : InteropCase) : String :=
  Interop.suite ++ "/" ++ fixture.name ++ " -> " ++ fixture.id ++
    if (registry.get? fixture.id).isSome then "" else " (no runner)"

/-- Lists fixtures, with the runners that they are paired with, and subjects. -/
def list (configuration : Configuration) (filter : Filter) (registry : Registry) : Run Ending := do
  match ← Snapshot.discover configuration.environment filter with
  | .error abort => return .aborted abort
  | .ok snapshots =>
    let interop ← Interop.discover configuration.environment filter
    let names := snapshots.map fun fixture => Snapshot.suite ++ "/" ++ fixture.name
    let subjects := configuration.subjects.map fun subject => "subject " ++ subject.name
    return .listed (names ++ interop.map (interopLine registry) ++ subjects)

/-- Runs every suite against subjects whose modules a loader loads. -/
def runSubjects (host : Host) (loader : Loader) (configuration : Configuration) (options : RunOptions)
    (registry : Registry) (subjects : List SubjectSpec) : Run Ending := do
  let built := subjects.map fun spec => External.subject host spec configuration.base loader
  match ← Session.runAll configuration.environment options registry built with
  | .error abort => return .aborted abort
  | .ok summaries => return .finished summaries

/-- Does what is asked for, from a directory. Subjects are looked up before the pattern is read. -/
def run (host : Host) (loader : Loader) (here : Path) (color : Bool) (registry : Registry) (request : Request) :
    Run Ending := do
  match ← configuration request here with
  | .error chain => return .failed chain
  | .ok configuration =>
    match request.job with
    | .list =>
      match Filter.ofPattern? request.pattern with
      | .error chain => return .failed chain
      | .ok filter => list configuration filter registry
    | .run create names =>
      match configuration.select names, Filter.ofPattern? request.pattern with
      | .error fault, _ => return .failed fault.chain
      | .ok _, .error chain => return .failed chain
      | .ok subjects, .ok filter => runSubjects host loader configuration ⟨create, color, filter⟩ registry subjects

/-- Does what the arguments ask for. -/
def answer (host : Host) (loader : Loader) (here : Path) (color : Bool) (registry : Registry)
    (arguments : List String) : Run Ending :=
  match Request.ofArguments arguments with
  | .ok request => run host loader here color registry request
  | .error fault => return .misused fault

end Program

end GoldenBench
