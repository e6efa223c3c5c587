import GoldenBench.ErrorChain
import GoldenBench.Interop.Value

/-!
# Running instances

An instance is a machine: it has a state, names of exported functions, and an answer to every call, which may
change the state.

* `Load` is what comes of loading a binary.
-/

namespace GoldenBench

/-- The answer to a call. -/
inductive Reply where
  /-- The call returned. -/
  | values (results : List Value)
  /-- The call failed. -/
  | error (chain : ErrorChain)
  /-- The call was interrupted, with a message or without one. -/
  | panic (message : Option String)

/-- A live realization of a binary. -/
structure Instance where
  /-- What the instance remembers between calls. -/
  State : Type
  /-- What it remembers now. -/
  state : State
  /-- The names of the exported functions. -/
  exports : List String
  /-- The answer to a call of an export with arguments. -/
  call : State → String → List Value → Reply × State

/-- What comes of loading a binary. -/
inductive Load where
  /-- An instance is there. -/
  | loaded (live : Instance)
  /-- The binary was rejected. -/
  | rejected (chain : ErrorChain)
  /-- Loading was interrupted, with a message or without one. The task that it was done by has a number. -/
  | panicked (task : Nat) (message : Option String)

end GoldenBench
