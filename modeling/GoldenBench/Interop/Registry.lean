import GoldenBench.Interop.Shipped

/-!
# The registry of runners

Every runner is registered under a name, at a place in a source. No two runners may have one name.

* `Registry.ofEntries` gathers registrations, or names all that clash.
* `Registry.get?` finds a runner, and `Registry.names` lists the names in order.
-/

namespace GoldenBench

/-- A registration. -/
structure Registration where
  /-- The name of the runner. -/
  name : String
  /-- The file that the registration stands in. -/
  file : String
  /-- Its line. -/
  line : Nat
  /-- Its column. -/
  column : Nat
  /-- The runner. -/
  runner : Runner

namespace Registration

/-- How a registration is shown. -/
def display (entry : Registration) : String :=
  entry.name ++ " (registered at " ++ entry.file ++ ":" ++ toString entry.line ++ ":" ++
    toString entry.column ++ ")"

/-- One registration comes before another, or is at the same place under the same name. -/
def before (a b : Registration) : Bool :=
  if a.name ≠ b.name then a.name < b.name
  else if a.file ≠ b.file then a.file < b.file
  else if a.line ≠ b.line then a.line < b.line
  else a.column ≤ b.column

end Registration

/-- Runners by name. -/
structure Registry where
  /-- The runners in the order of their names. -/
  runners : List (String × Runner)

namespace Registry

/-- The registrations that stand next to one of the same name. -/
def clashes (sorted : List Registration) : List Registration :=
  ((sorted.splitBy fun a b => a.name == b.name).filter fun run => 1 < run.length).flatten

/-- Gathers registrations. If names clash, the answer is every registration concerned, in order. -/
def ofEntries (entries : List Registration) : Except (List Registration) Registry :=
  let sorted := entries.mergeSort Registration.before
  let clashing := clashes sorted
  if clashing.isEmpty then .ok ⟨sorted.map fun entry => (entry.name, entry.runner)⟩ else .error clashing

/-- The wording of a clash. -/
def clashMessage (clashing : List Registration) : String :=
  "found duplicate runner registrations:\n" ++ Text.joinLines (clashing.map fun entry => "  " ++ entry.display)

/-- The runner with a name. -/
def get? (registry : Registry) (name : String) : Option Runner :=
  registry.runners.lookup name

/-- The names of all runners. -/
def names (registry : Registry) : List String :=
  registry.runners.map (·.1)

/-- Adds a runner, or replaces the one that has its name. -/
def withRunner (registry : Registry) (name : String) (runner : Runner) : Registry :=
  ⟨(((name, runner) :: registry.runners.filter (·.1 ≠ name))).mergeSort fun a b => a.1 < b.1 || a.1 == b.1⟩

/-- No runners. -/
def empty : Registry := ⟨[]⟩

/-- The registry of the runners that come with the program; `site` is where their checks stand. -/
def shipped (site : String) : Registry :=
  ⟨[("add", .add site), ("identity", .identity site)]⟩

end Registry

end GoldenBench
