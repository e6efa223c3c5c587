import GoldenBench.Environment
import GoldenBench.ErrorChain
import GoldenBench.Files.Store

/-!
# Configurations

A configuration names where fixtures live and which builds of the compiler are tested. Its relative paths are
relative to the directory that holds its file.

* `Configuration.check` accepts a configuration only if it has subjects and no two of one name.
* `Configuration.select` picks subjects by name.
* `Configuration.environment` is where its fixtures live.
-/

namespace GoldenBench

/-- An external program with its first arguments. -/
structure Tool where
  /-- The program. -/
  program : String
  /-- The first arguments. -/
  arguments : List String
  /-- The directory that it runs in, if it is not that of the configuration. -/
  directory : Option Path
  deriving DecidableEq

/-- An external program that converts in one direction. -/
structure ConverterTool extends Tool where
  /-- What is added to the arguments when names are kept. -/
  keepNames : List String
  /-- What is added to the arguments when names are dropped. -/
  dropNames : List String
  deriving DecidableEq

/-- A build of the compiler, as it is configured. -/
structure SubjectSpec where
  /-- The name of the build. -/
  name : String
  /-- Its compiler. -/
  compiler : Tool
  /-- Its converter from text to binary. -/
  toBinary : ConverterTool
  /-- Its converter from binary to text. -/
  toText : ConverterTool
  deriving DecidableEq

/-- A configuration. -/
structure Configuration where
  /-- The directory of the snapshot fixtures. -/
  fixturesDirectory : Path
  /-- The directory of the interop fixtures. -/
  interopDirectory : Path
  /-- The extension of sources. -/
  sourceExtension : String
  /-- The extension of golden files. -/
  goldenExtension : String
  /-- What stands before the extension in the name of an interop fixture. -/
  interopSuffix : String
  /-- The source that is compiled from memory, if it is not the usual one. -/
  smokeSource : Option String
  /-- The builds to test. -/
  subjects : List SubjectSpec
  /-- The directory that relative paths start from. -/
  base : Path
  deriving DecidableEq

namespace Configuration

/-- What can be wrong with a configuration, or with a choice of its subjects. -/
inductive Fault where
  /-- The file cannot be read. -/
  | unreadable (path : Path) (fault : FileFault)
  /-- The file does not hold a configuration. -/
  | unparsable (path : Path)
  /-- There are no subjects. -/
  | noSubjects
  /-- Two subjects have one name. -/
  | duplicateSubject (name : String)
  /-- No subject has a name that was asked for. -/
  | unknownSubject (name : String)
  deriving DecidableEq

/-- A fault as an error with its cause. -/
def Fault.chain : Fault → ErrorChain
  | .unreadable path fault => ⟨"could not read " ++ path.text ++ ": " ++ fault.message, [fault.message]⟩
  | .unparsable path => .plain ("could not parse " ++ path.text)
  | .noSubjects => .plain "no subjects are configured"
  | .duplicateSubject name => .plain ("subject " ++ name ++ " is configured more than once")
  | .unknownSubject name => .plain ("no subject named " ++ name ++ " is configured")

/-- The first name that occurred before, with `seen` the names before these. -/
def firstRepeated? (seen : List String) : List String → Option String
  | [] => none
  | name :: rest => if seen.contains name then some name else firstRepeated? (name :: seen) rest

/-- The configuration, if it has subjects and no two of one name. -/
def check (configuration : Configuration) : Except Fault Configuration :=
  if configuration.subjects.isEmpty then .error .noSubjects
  else
    match firstRepeated? [] (configuration.subjects.map (·.name)) with
    | some name => .error (.duplicateSubject name)
    | none => .ok configuration

/-- A path as seen from the configuration. -/
def resolve (configuration : Configuration) (path : Path) : Path :=
  if path.isAbsolute then path else configuration.base.join path

/-- The subjects with these names, in the order of the configuration; all of them, if no name is given. -/
def select (configuration : Configuration) (names : List String) : Except Fault (List SubjectSpec) :=
  match names.find? fun name => !configuration.subjects.any (·.name == name) with
  | some name => .error (.unknownSubject name)
  | none => .ok (configuration.subjects.filter fun subject => names.isEmpty || names.contains subject.name)

/-- Where the fixtures of a configuration live. -/
def environment (configuration : Configuration) : Environment where
  fixturesDirectory := configuration.resolve configuration.fixturesDirectory
  interopDirectory := configuration.resolve configuration.interopDirectory
  sourceExtension := configuration.sourceExtension
  goldenExtension := configuration.goldenExtension
  interopSuffix := configuration.interopSuffix
  smokeSource := configuration.smokeSource.getD Environment.defaultSmokeSource

end Configuration

end GoldenBench
