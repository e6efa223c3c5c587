import GoldenBench.Files.Path
import GoldenBench.Filter

/-!
# Where fixtures live

An `Environment` says where fixtures are found and what they are called, `RunOptions` how a run goes about them.
-/

namespace GoldenBench

/-- Where fixtures live and what they are called. -/
structure Environment where
  /-- The directory of the snapshot fixtures. -/
  fixturesDirectory : Path
  /-- The directory of the interop fixtures. -/
  interopDirectory : Path
  /-- The extension of sources. -/
  sourceExtension : String
  /-- The extension of golden files. -/
  goldenExtension : String
  /-- What stands before the extension in the name of an interop fixture. -/
  interopSuffix : String
  /-- The source that is compiled from memory. -/
  smokeSource : String

/-- The source that is compiled from memory unless another one is given. -/
def Environment.defaultSmokeSource : String :=
  "export function test(x: i32): i32 \x7b\n  return x;\n\x7d\n\nexport function start(): void \x7b\x7d\n"

/-- How a run goes about its fixtures. -/
structure RunOptions where
  /-- Missing golden files are written. -/
  create : Bool
  /-- Reports are coloured. -/
  color : Bool
  /-- The fixtures to run. -/
  filter : Filter

end GoldenBench
