import GoldenBench.Posix.Shell.Evaluation

/-!
# The host of the small programs

* `Posix.host` runs a shell and the small programs, each in its directory of the file tree of a run.
-/

namespace GoldenBench.Posix

/-- The directories in which the programs lie. -/
def programDirectories : List String := ["/bin/", "/usr/bin/"]

/-- The program with a name, as one that reads nothing. -/
def program? (name : String) : Option (Key → List String → Store → Effect) :=
  if name = "sh" then some Shell.run
  else (utility? name).map fun run directory arguments files => run ⟨directory, .empty⟩ arguments files

/-- The program that a path leads to: one of those that are there, or else a file that may not be run. -/
def programAt (files : Store) (directory : Key) (path : String) :
    Except FileFault (Key → List String → Store → Effect) :=
  let named := programDirectories.findSome? fun home =>
    if home.toList.isPrefixOf path.toList then program? (String.ofList (path.toList.drop home.length)) else none
  match named, files.locate true ((Key.path directory).join ⟨path⟩) with
  | some run, _ => .ok run
  | none, .ok (.found _ _) => .error .denied
  | none, .ok (.absent _) => .error .notFound
  | none, .error fault => .error fault

/-- Starts a program in a directory. A name with a slash is a path. -/
def start (files : Store) (directory : Path) (command : Command) : Except FileFault Effect :=
  if (command.program :: directory.text :: command.arguments).any (·.contains '\x00') then .error .zeroInCommand
  else
    match files.locate true directory with
    | .ok (.found key .directory) => do
      let run ← if command.program.contains '/' then programAt files key command.program
        else (program? command.program).elim (.error .notFound) .ok
      return run key command.arguments files
    | .ok (.found _ _) => .error .notDirectory
    | .ok (.absent _) => .error .notFound
    | .error fault => .error fault

/-- The host that is in a directory. -/
def host (here : Path) : Host where
  run command := do
    match start (← Errand.files) (command.directory.getD here) command with
    | .error fault => return .error fault
    | .ok effect =>
      Errand.setFiles effect.files
      return .ok ⟨effect.status, effect.output, effect.messages⟩

end GoldenBench.Posix
