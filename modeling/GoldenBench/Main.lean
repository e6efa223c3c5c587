import GoldenBench.Posix.Host
import GoldenBench.Program.Basic
import GoldenBench.Program.Bundle
import GoldenBench.Wasm.Loader

/-!
# The command line program

The program works on a file tree that it is handed on standard input as a bundle, and it is in the root of that
tree. What it changed in the tree follows its output, as a bundle again. Every time that it tells is that of the
whole run.
-/

open GoldenBench

/-- Does what the arguments ask for. -/
def main (arguments : List String) : IO UInt32 := do
  let root : Path := ⟨"/"⟩
  match Bundle.read? (← (← IO.getStdin).readToEnd) with
  | none =>
    IO.eprintln (Ending.logEntry "ERROR" "standard input does not hold a bundle of files")
    return 2
  | some files =>
    let began ← IO.monoNanosNow
    let program := Program.answer (Posix.host root) Wasm.loader root false (Registry.shipped "runners") arguments
    let (ending, world) := program.run (.start files.withScratchRoot [])
    let took := (← IO.monoNanosNow) - began
    let changes := Bundle.changes (Shipped.addTo files) world.files
    IO.print ending.output
    if changes matches .obj (_ :: _) then IO.println changes.compact
    IO.eprint (ending.messages false fun _ => ⟨took / 1000000000, took % 1000000000⟩)
    return UInt32.ofNat ending.status
