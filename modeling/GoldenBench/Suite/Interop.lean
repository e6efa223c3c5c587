import GoldenBench.Directive
import GoldenBench.Interop.Registry
import GoldenBench.Invocation
import GoldenBench.Suite.Discovery

/-!
# Interop fixtures

An interop fixture is compiled to a binary, the binary is loaded, and the runner that the fixture is paired with is
handed the instance. Every load is started before any is waited for; reports come in the order in which the loads
settle. A rejected load, an interrupted one or a failing runner fails its own fixture and nothing else.

* `Interop.discover` finds the fixtures.
* `Interop.launch` takes the fixtures up to their loads, `Interop.settle` waits for the loads, and
  `Interop.runSuite` is the whole.
-/

namespace GoldenBench

/-- An interop fixture. -/
structure InteropCase where
  /-- Its name: the path from the directory of interop fixtures, without the suffix and the extension. -/
  name : String
  /-- The runner that it is paired with. -/
  id : String
  /-- Its source. -/
  source : Path
  deriving DecidableEq

namespace Interop

/-- The runner that a fixture is paired with: the last piece of its name, with underscores for dashes. -/
def runnerId (name : String) : String :=
  let chars := name.toList
  let last := (chars.reverse.takeWhile (· ≠ '/')).reverse
  String.ofList (last.map fun c => if c = '-' then '_' else c)

/-- A text without an ending, if it ends so. -/
def stripEnding? (ending text : String) : Option String :=
  if ending.toList.isSuffixOf text.toList then
    some (String.ofList (text.toList.take (text.length - ending.length)))
  else none

/-- The fixture of a source file, if the file is named like one. -/
def caseOf? (environment : Environment) (file : SourceFile) : Option InteropCase :=
  (stripEnding? ("." ++ environment.interopSuffix) file.name).map fun name => ⟨name, runnerId name, file.path⟩

/-- The fixtures among source files that a filter accepts. -/
def select (environment : Environment) (filter : Filter) : List SourceFile → Run (List InteropCase)
  | [] => return []
  | file :: rest => do
    match caseOf? environment file with
    | none =>
      Run.tell (.notInterop file.path)
      select environment filter rest
    | some fixture =>
      let others ← select environment filter rest
      return if filter.accepts fixture.name then fixture :: others else others

/-- Finds the fixtures that a filter accepts. -/
def discover (environment : Environment) (filter : Filter) : Run (List InteropCase) := do
  let found ← Run.sourceFiles environment.interopDirectory environment.sourceExtension
  select environment filter found

/-- Compiles a fixture, always silently, and has its module emit a binary. The answer is the binary, or the outcome
to fail with, and the notes. -/
def compileCase (subject : Subject) (fixture : InteropCase) (color : Bool) :
    Run (Except Outcome ByteArray × List String) := do
  match ← Run.readText fixture.source with
  | .error fault =>
    return (.error (.failureWith ("could not read " ++ fixture.source.text) fault.message), [])
  | .ok source =>
    match Directive.options source.toList with
    | .error fault => return (.error (.failure ("bad directive line: " ++ fault.message)), [])
    | .ok directed =>
      let invocation ← Invocation.run subject.compiler (.file fixture.source) directed.silenced
      let notes := invocation.notes color
      match invocation.result with
      | .error failure => return (.error (.failureWith "compilation failed" failure), notes)
      | .ok made =>
        match made.binary with
        | .ok binary => return (.ok binary, notes)
        | .error chain => return (.error (.failureWith "could not emit binary" chain.inline), notes)

/-- What is said of an interrupted load. -/
def loaderPanic (task : Nat) (message : Option String) : ErrorChain :=
  .plain ("loader panicked: task " ++ toString task ++ " panicked" ++
    match message with
    | some text => " with message " ++ Text.quote text
    | none => "")

/-- The outcome of a load that was interrupted. -/
def interrupted (task : Nat) (message : Option String) : Outcome :=
  .failure ("load rejected: " ++ (loaderPanic task message).inline)

/-- A load that was started and not waited for yet. -/
structure Pending where
  /-- The fixture. -/
  fixture : InteropCase
  /-- Its runner. -/
  runner : Runner
  /-- The notes of its compilation. -/
  notes : List String
  /-- The binary that is loaded. -/
  binary : ByteArray

/-- The names of the fixtures that are paired with a runner. -/
def sharing (fixtures : List InteropCase) (id : String) : List String :=
  (fixtures.filter (·.id = id)).map (·.name)

/-- Takes one fixture up to its load. -/
def launchCase (subject : Subject) (registry : Registry) (color : Bool) (fixtures : List InteropCase)
    (fixture : InteropCase) : Run (Except Finding Pending) := do
  let names := sharing fixtures fixture.id
  if 1 < names.length then
    return .error ⟨fixture.name, .failureWith
      ("runner id " ++ fixture.id ++ " is shared by " ++ toString names.length ++ " fixtures")
      (Text.joinLines names), []⟩
  match registry.get? fixture.id with
  | none => return .error ⟨fixture.name, .failure ("no runner registered for " ++ fixture.id), []⟩
  | some runner =>
    Run.tell (.interopStarted subject.name fixture.name)
    match ← compileCase subject fixture color with
    | (.error outcome, notes) => return .error ⟨fixture.name, outcome, notes⟩
    | (.ok binary, notes) => return .ok ⟨fixture, runner, notes, binary⟩

/-- Takes fixtures up to their loads. The answer is the findings on those that did not get there, in order, and
the loads. -/
def launch (subject : Subject) (registry : Registry) (color : Bool) (fixtures : List InteropCase) :
    List InteropCase → Run (List Finding × List Pending)
  | [] => return ([], [])
  | fixture :: rest => do
    let first ← launchCase subject registry color fixtures fixture
    let (findings, loads) ← launch subject registry color fixtures rest
    match first with
    | .error finding => return (finding :: findings, loads)
    | .ok pending => return (findings, pending :: loads)

/-- The finding on a load that has settled. -/
def finish (subject : Subject) (pending : Pending) : Run Finding := do
  let outcome ← match subject.loader.load pending.binary with
    | .loaded live =>
      Run.tell (.runnerStarted subject.name pending.fixture.id pending.fixture.name)
      pure (pending.runner.outcome live)
    | .rejected chain => pure (.failure ("load rejected: " ++ chain.inline))
    | .panicked task message => pure (interrupted task message)
  return ⟨pending.fixture.name, outcome, pending.notes⟩

/-- Waits for loads, one after another as they settle. -/
def settle (subject : Subject) (loads : List Pending) : Run (List Finding) :=
  match loads with
  | [] => return []
  | first :: others => do
    let place := (← Run.pick) % (others.length + 1)
    let finding ← finish subject ((first :: others)[place]?.getD first)
    let findings ← settle subject ((first :: others).eraseIdx place)
    return finding :: findings
termination_by loads.length
decreasing_by
  have : place < (first :: others).length := Nat.mod_lt _ (by simp)
  rw [List.length_eraseIdx_of_lt this]
  simp

/-- Warns of runners that the filter accepts and no fixture is paired with. -/
def warnUnused (registry : Registry) (filter : Filter) (fixtures : List InteropCase) : Run Unit :=
  (registry.names.filter fun name => filter.accepts name && !fixtures.any (·.id = name)).forM fun name =>
    Run.tell (.runnerUnused name)

/-- The name of the suite. -/
def suite : String := "interop"

/-- Runs every fixture that the filter accepts, if modules can be executed at all. -/
def runSuite (subject : Subject) (environment : Environment) (options : RunOptions) (registry : Registry) :
    Run (List Finding) := do
  let fixtures ← discover environment options.filter
  warnUnused registry options.filter fixtures
  if fixtures.isEmpty then return []
  match subject.loader.capability with
  | .unsupported reason =>
    Run.tell (.interopSkipped subject.name reason)
    return [⟨"*", .skipped reason, []⟩]
  | .supported =>
    let (findings, loads) ← launch subject registry options.color fixtures fixtures
    let settled ← settle subject loads
    return findings ++ settled

end Interop

end GoldenBench
