import GoldenBench.Configuration.Basic
import GoldenBench.Text.Blank
import GoldenBench.Text.Lossy
import GoldenBench.World

/-!
# External programs

A `Host` runs programs: an errand, since programs read and write files.

* `Tool.run` runs a configured tool with further arguments.
* `ToolOutput.check` takes an unsuccessful exit for an error.
-/

namespace GoldenBench

/-- A program to run. -/
structure Command where
  /-- The program. -/
  program : String
  /-- Its arguments. -/
  arguments : List String
  /-- The directory to run it in, if it is not the one that the host is in. -/
  directory : Option Path

/-- How a program ended. -/
structure Exit where
  /-- Its exit status. -/
  status : Nat
  /-- What it wrote. -/
  output : ByteArray
  /-- What it wrote as messages. -/
  messages : ByteArray

/-- What runs programs. A program that cannot be started is a fault. -/
structure Host where
  /-- Runs a program to its end, with nothing to read. -/
  run : Command → Errand (Except FileFault Exit)

/-- What a tool left behind. -/
structure ToolOutput where
  /-- Its exit status. -/
  status : Nat
  /-- What it wrote. -/
  output : String
  /-- What it wrote as messages. -/
  messages : String
  deriving DecidableEq

namespace ToolOutput

/-- The output of a program as texts. -/
def ofExit (exit : Exit) : ToolOutput :=
  ⟨exit.status, Text.ofBytes exit.output, Text.ofBytes exit.messages⟩

/-- The wording of an exit status. -/
def statusText (output : ToolOutput) : String :=
  "exit status: " ++ toString output.status

/-- What is told of a failed tool: its messages, or else its output. -/
def said (output : ToolOutput) : String :=
  match Text.trimEnd output.messages.toList with
  | [] => String.ofList (Text.trimEnd output.output.toList)
  | messages => String.ofList messages

/-- The output of a tool that exited successfully. -/
def check (output : ToolOutput) (what : String) : Except ErrorChain ToolOutput :=
  if output.status = 0 then .ok output
  else .error (.plain (what ++ " exited with " ++ output.statusText ++ ":\n" ++ output.said))

end ToolOutput

namespace Tool

/-- The command that runs a tool from a directory, with further arguments. -/
def command (tool : Tool) (home : Path) (further : List String) : Command :=
  let directory := match tool.directory with
    | some path => home.join path
    | none => home
  ⟨tool.program, tool.arguments ++ further, if directory.text.isEmpty then none else some directory⟩

/-- Runs a tool from a directory, with further arguments. -/
def run (host : Host) (tool : Tool) (home : Path) (further : List String) : Errand (Except ErrorChain ToolOutput) := do
  match ← host.run (tool.command home further) with
  | .ok exit => return .ok (.ofExit exit)
  | .error fault => return .error (.because ("while running " ++ tool.program) fault.message)

end Tool

end GoldenBench
