import GoldenBench.Subject

/-!
# Calling the compiler

Nothing that a compiler does may end a run: errors and interruptions alike come back as a failure. What an
interrupted compiler had to say is lost.

* `Invocation.run` makes one call.
-/

namespace GoldenBench

/-- What came of one call of the compiler. -/
structure Invocation where
  /-- The module, or the wording of the failure. -/
  result : Except String Module
  /-- What the compiler had to say. -/
  diagnostics : List Diagnostic

namespace Invocation

/-- A compilation as the outcome of a call. -/
def ofCompilation (compilation : Compilation) : Invocation :=
  match compilation.result with
  | .ok made => ⟨.ok made, compilation.diagnostics⟩
  | .error (.error chain) => ⟨.error chain.inline, compilation.diagnostics⟩
  | .error (.panic message) => ⟨.error (Failure.panic message).text, []⟩

/-- Calls a compiler once. -/
def run (compiler : Compiler) (input : CompilerInput) (options : CompilerOptions) : Run Invocation := do
  Run.tell (.compiling input options)
  let invocation := ofCompilation (← compiler.compile input options)
  if !invocation.diagnostics.isEmpty then
    Run.tell (.diagnosed input invocation.diagnostics.length)
  return invocation

/-- The diagnostics as a note, if there are any. -/
def notes (invocation : Invocation) (color : Bool) : List String :=
  if invocation.diagnostics.isEmpty then [] else [Diagnostic.format color invocation.diagnostics]

end Invocation

end GoldenBench
