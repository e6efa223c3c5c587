import GoldenBench.Diagnostic
import GoldenBench.World

/-!
# Messages of a compiler

* `Errand.readMessages` finds the diagnostics in what a compiler wrote and hands on the lines outside any, and
  `Run.readMessages` keeps these lines in the journal.
-/

namespace GoldenBench

/-- The diagnostics in what a compiler wrote. Lines before the first one are handed on. -/
def Errand.readMessages (text : String) : Errand (List Diagnostic) := do
  (Diagnostic.strayLines text).forM tellStray
  return Diagnostic.parse text

/-- The diagnostics in what a compiler wrote. Lines before the first one are told. -/
def Run.readMessages (text : String) : Run (List Diagnostic) :=
  Errand.readMessages text

end GoldenBench
