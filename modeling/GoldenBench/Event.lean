import GoldenBench.CompilerOptions
import GoldenBench.Files.Path
import GoldenBench.Text.Quoted

/-!
# What happens during a run

Everything worth telling about a run is an `Event`. Most events have a place in the log, with a level and a
wording; a conversion and the start of a program have none.

* `Event.level?` and `Event.message` give the log record of an event.
* `Event.isCompilation` picks the calls of the compiler out of a journal.
-/

namespace GoldenBench

/-- What a compiler is given. -/
inductive CompilerInput where
  /-- A source file. -/
  | file (path : Path)
  /-- A source held in memory, with the name it goes by. -/
  | memory (name source : String)
  deriving DecidableEq

/-- The wording of an input in the log. -/
def CompilerInput.text : CompilerInput → String
  | .file path => "File(" ++ Text.quotePath path.text ++ ")"
  | .memory name source =>
    "Source \x7b name: " ++ Text.quote name ++ ", source: " ++ Text.quote source ++ " \x7d"

/-- The directions of a conversion. -/
inductive Direction where
  /-- From text to binary. -/
  | toBinary
  /-- From binary to text. -/
  | toText
  deriving DecidableEq

/-- Something that happens during a run. -/
inductive Event where
  /-- The compiler is called. -/
  | compiling (input : CompilerInput) (options : CompilerOptions)
  /-- The compiler reported diagnostics. -/
  | diagnosed (input : CompilerInput) (count : Nat)
  /-- A line of a compiler's messages stands outside any diagnostic. -/
  | strayLine (line : String)
  /-- The suites start with a subject. -/
  | subjectStarted (subject : String)
  /-- A snapshot fixture starts. -/
  | fixtureStarted (subject fixture : String)
  /-- A directory of fixtures does not exist. -/
  | directoryMissing (path : Path)
  /-- A golden file was written. -/
  | goldenCreated (path : Path)
  /-- Two texts differ too much to be told apart character by character. -/
  | coarseDiff (limit : Nat)
  /-- A source below the interop directory is not an interop fixture. -/
  | notInterop (path : Path)
  /-- A runner has no fixture. -/
  | runnerUnused (runner : String)
  /-- The interop suite is skipped. -/
  | interopSkipped (subject reason : String)
  /-- An interop fixture is compiled. -/
  | interopStarted (subject fixture : String)
  /-- A runner is handed an instance. -/
  | runnerStarted (subject runner fixture : String)
  /-- The smoke source is compiled. -/
  | smokeStarted (subject : String)
  /-- The optimizer reported diagnostics. -/
  | optimizerReported (subject : String) (count : Nat)
  /-- A module goes through the converter and back. -/
  | roundTripStarted (subject : String)
  /-- The converter is called. -/
  | converting (direction : Direction) (preserveNames : Bool)
  /-- The binary of a round trip has a size. -/
  | roundTripBinary (size : Nat)
  /-- The configuration is loaded. -/
  | configurationLoaded (path : Path)

namespace Event

/-- The levels of the log. -/
inductive Level where
  /-- Something to look at. -/
  | warn
  /-- What is going on. -/
  | info
  /-- What is going on in detail. -/
  | debug
  /-- Every step. -/
  | trace
  deriving DecidableEq

/-- The name of a level. -/
def Level.name : Level → String
  | .warn => "WARN"
  | .info => "INFO"
  | .debug => "DEBUG"
  | .trace => "TRACE"

/-- The level of an event in the log, if it has a place there. -/
def level? : Event → Option Level
  | .compiling .. => some .trace
  | .diagnosed .. => some .debug
  | .strayLine .. => some .trace
  | .subjectStarted .. => some .info
  | .fixtureStarted .. => some .debug
  | .directoryMissing .. => some .warn
  | .goldenCreated .. => some .info
  | .coarseDiff .. => some .debug
  | .notInterop .. => some .debug
  | .runnerUnused .. => some .warn
  | .interopSkipped .. => some .info
  | .interopStarted .. => some .debug
  | .runnerStarted .. => some .debug
  | .smokeStarted .. => some .debug
  | .optimizerReported .. => some .warn
  | .roundTripStarted .. => some .debug
  | .converting .. => none
  | .roundTripBinary .. => some .trace
  | .configurationLoaded .. => some .debug

/-- The wording of an event. -/
def message : Event → String
  | .compiling input options => "Compiling " ++ input.text ++ " with " ++ options.text
  | .diagnosed input count => "Compilation of " ++ input.text ++ " produced " ++ toString count ++ " diagnostics"
  | .strayLine line => "Compiler stderr outside a diagnostic: " ++ line
  | .subjectStarted subject => "Running against " ++ subject
  | .fixtureStarted subject fixture => subject ++ ": running fixture " ++ fixture
  | .directoryMissing path => "Fixture directory " ++ path.text ++ " does not exist"
  | .goldenCreated path => "Created golden file " ++ path.text
  | .coarseDiff limit => "Texts differ by more than " ++ toString limit ++ " edits; diffing them coarsely"
  | .notInterop path => "Ignoring " ++ path.text ++ ": not an interop fixture"
  | .runnerUnused runner => "Runner " ++ runner ++ " has no interop fixture"
  | .interopSkipped subject reason => subject ++ ": skipping interop suite: " ++ reason
  | .interopStarted subject fixture => subject ++ ": compiling interop fixture " ++ fixture
  | .runnerStarted subject runner fixture => subject ++ ": running " ++ runner ++ " against " ++ fixture
  | .smokeStarted subject => subject ++ ": compiling the smoke source"
  | .optimizerReported subject count =>
    subject ++ ": the optimizer reported " ++ toString count ++ " diagnostics"
  | .roundTripStarted subject => subject ++ ": round-tripping through the converter"
  | .converting .toBinary _ => "Converting text to binary"
  | .converting .toText _ => "Converting binary to text"
  | .roundTripBinary size => "Round trip produced " ++ toString size ++ " bytes"
  | .configurationLoaded path => "Loading configuration from " ++ path.text

/-- The event is a call of the compiler. -/
def isCompilation : Event → Bool
  | .compiling .. => true
  | _ => false

end Event

end GoldenBench
