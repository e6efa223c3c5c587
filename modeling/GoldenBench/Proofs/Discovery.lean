import GoldenBench.Proofs.Run
import GoldenBench.Suite.Interop
import GoldenBench.Suite.Snapshot

/-!
# What is discovered

Discovery reads the file tree and tells what it leaves out. It changes nothing else.

* `Snapshot.discover_apply` and `Interop.discover_apply` say what is found (`Snapshot.casesIn`, `Interop.casesIn`).
* `Interop.warnUnused_apply` says which runners are warned of.
-/

namespace GoldenBench

/-- The sources below a directory, or none if it does not exist. -/
def Store.sources (files : Store) (root : Path) (extension : String) : List SourceFile :=
  if files.holds root then files.sourceFiles root extension else []

/-- What is told of a directory that does not exist. -/
def Store.missing (files : Store) (root : Path) : List Event :=
  if files.holds root then [] else [.directoryMissing root]

theorem Run.sourceFiles_apply (root : Path) (extension : String) (world : World) :
    Run.sourceFiles root extension world =
      (world.files.sources root extension, world.noted (world.files.missing root)) := by
  by_cases hroot : world.files.holds root = true
  · simp [Run.sourceFiles, Store.sources, Store.missing, hroot]
  · simp [Run.sourceFiles, Store.sources, Store.missing, hroot]

namespace Snapshot

variable (environment : Environment) (filter : Filter)

/-- The snapshot fixtures of a file tree that a filter accepts. -/
def casesIn (files : Store) : List SnapshotCase :=
  ((files.sources environment.fixturesDirectory environment.sourceExtension).map (caseOf environment)).filter
    fun fixture => filter.accepts fixture.name

theorem discover_apply (h : Path.isBadExtension environment.goldenExtension = false) (world : World) :
    discover environment filter world =
      (.ok (casesIn environment filter world.files),
        world.noted (world.files.missing environment.fixturesDirectory)) := by
  simp only [discover, Run.bind_apply, Run.sourceFiles_apply, h, Bool.and_false, Bool.false_eq_true, ↓reduceIte]
  rfl

end Snapshot

namespace Interop

variable (environment : Environment) (filter : Filter)

/-- The interop fixtures of a file tree that a filter accepts. -/
def casesIn (files : Store) : List InteropCase :=
  ((files.sources environment.interopDirectory environment.sourceExtension).filterMap (caseOf? environment)).filter
    fun fixture => filter.accepts fixture.name

/-- What is told of sources that are no interop fixtures. -/
def ignored (found : List SourceFile) : List Event :=
  (found.filter fun file => (caseOf? environment file).isNone).map fun file => .notInterop file.path

theorem select_apply (found : List SourceFile) (world : World) :
    select environment filter found world =
      ((found.filterMap (caseOf? environment)).filter (fun fixture => filter.accepts fixture.name),
        world.noted (ignored environment found)) := by
  induction found generalizing world with
  | nil => exact congrArg _ world.noted_nil.symm
  | cons file rest ih =>
    rw [select]
    cases hcase : caseOf? environment file with
    | none => simp [hcase, ih, ignored]
    | some fixture =>
      simp only [Run.bind_apply, ih, List.filterMap_cons_some hcase, List.filter_cons, ignored, hcase]
      rfl

theorem discover_apply (world : World) :
    discover environment filter world = (casesIn environment filter world.files,
      world.noted (world.files.missing environment.interopDirectory ++
        ignored environment (world.files.sources environment.interopDirectory environment.sourceExtension))) := by
  rw [discover, Run.bind_apply, Run.sourceFiles_apply, select_apply, World.noted_noted]
  rfl

/-- What is told of runners that a filter accepts and no fixture is paired with. -/
def unused (registry : Registry) (fixtures : List InteropCase) : List Event :=
  (registry.names.filter fun name => filter.accepts name && !fixtures.any (·.id = name)).map .runnerUnused

theorem warnUnused_apply (registry : Registry) (fixtures : List InteropCase) (world : World) :
    warnUnused registry filter fixtures world = ((), world.noted (unused filter registry fixtures)) :=
  Run.forM_tell world _ _

end Interop

end GoldenBench
