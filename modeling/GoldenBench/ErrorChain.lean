/-!
# Errors and their causes

An error says what failed; what caused it may follow, the nearest cause first. Something that does not even
answer with an error may be interrupted, with or without a message.

* `ErrorChain.inline` puts the whole chain on one line, `ErrorChain.report` spells it out under a heading.
-/

namespace GoldenBench

/-- An error with its causes, the outermost first. -/
structure ErrorChain where
  /-- What failed. -/
  message : String
  /-- What caused it, the nearest cause first. -/
  causes : List String
  deriving DecidableEq, Inhabited

namespace ErrorChain

/-- An error without a cause. -/
def plain (message : String) : ErrorChain := ⟨message, []⟩

/-- The error as the cause of another one. -/
def context (error : ErrorChain) (message : String) : ErrorChain :=
  ⟨message, error.message :: error.causes⟩

/-- An error with one cause. -/
def because (message cause : String) : ErrorChain := ⟨message, [cause]⟩

/-- The whole chain on one line. -/
def inline (error : ErrorChain) : String :=
  ": ".intercalate (error.message :: error.causes)

/-- A cause under its heading: numbered, if there are several. -/
def reportCause (number : Option Nat) (cause : String) : String :=
  let lines := cause.splitOn "\n"
  match number with
  | none => "    " ++ "\n    ".intercalate lines
  | some n =>
    let label := toString n
    "".pushn ' ' (5 - label.length) ++ label ++ ": " ++ "\n       ".intercalate lines

/-- The error, and its causes under a heading of their own. -/
def report (error : ErrorChain) : String :=
  match error.causes with
  | [] => error.message
  | [cause] => error.message ++ "\n\nCaused by:\n" ++ reportCause none cause
  | causes =>
    error.message ++ "\n\nCaused by:\n" ++
      "\n".intercalate (causes.zipIdx.map fun (cause, n) => reportCause (some n) cause)

end ErrorChain

/-- Why something did not answer. -/
inductive Failure where
  /-- It answered with an error. -/
  | error (chain : ErrorChain)
  /-- It was interrupted, with a message or without one. -/
  | panic (message : Option String)
  deriving DecidableEq

/-- What is said of an interruption without a message. -/
def silentPanic : String := "compiler panicked with a non-string payload"

/-- The wording of a failure. -/
def Failure.text : Failure → String
  | .error chain => chain.inline
  | .panic message => message.getD silentPanic

end GoldenBench
