import GoldenBench.Diagnostic
import GoldenBench.Interop.Instance
import GoldenBench.World

/-!
# Subjects

A subject is one build of the compiler under test with the tools that it is exercised through: a compiler, a
converter between the text and the binary of a module, and a loader. What compilers and converters do are errands,
since programs that stand behind them read and write files.

* `Module.ask` asks something of a module, `Module.askAll` one thing after another.
-/

namespace GoldenBench

/-- What a module emits, and whether it is valid. -/
structure Emission where
  /-- Whether the module is valid. -/
  validity : Except ErrorChain Unit
  /-- The text of the module. -/
  text : Except ErrorChain String
  /-- The binary of the module. -/
  binary : Except ErrorChain ByteArray

/-- A module that a compiler made. It can be optimized, which gives what the optimizer has to say and what the
module emits from then on. What the module needs for that is kept apart from the file tree in the meantime. -/
structure Module extends Emission where
  /-- What is kept at first. -/
  kept : Parcel
  /-- Optimizes the module with what is kept, and keeps what is left of it. -/
  optimize : Parcel → Errand (Except ErrorChain (List Diagnostic × Emission) × Parcel)

namespace Module

/-- Optimizes a module that was just made. -/
def optimizeOnce (made : Module) : Errand (Except ErrorChain (List Diagnostic × Emission)) :=
  return (← made.optimize made.kept).1

/-- What can be asked of a module. -/
inductive Question where
  /-- Whether it is valid. -/
  | validity
  /-- Its text. -/
  | text
  /-- Its binary. -/
  | binary
  /-- To be optimized. -/
  | optimization
  deriving DecidableEq

/-- The answer to a question. -/
inductive Answer where
  /-- Whether the module is valid. -/
  | validity (answer : Except ErrorChain Unit)
  /-- The text of the module. -/
  | text (answer : Except ErrorChain String)
  /-- The binary of the module. -/
  | binary (answer : Except ErrorChain ByteArray)
  /-- What the optimizer has to say. -/
  | optimization (answer : Except ErrorChain (List Diagnostic))

/-- What a module emits, and what is kept for it. -/
structure Condition where
  /-- What it emits. -/
  emission : Emission
  /-- What is kept. -/
  kept : Parcel

/-- A module that was just made. -/
def condition (made : Module) : Condition :=
  ⟨made.toEmission, made.kept⟩

/-- Asks a module: the answer, and the module from then on. Optimizing changes what it emits, unless it fails. -/
def ask (made : Module) (now : Condition) : Question → Errand (Answer × Condition)
  | .validity => return (.validity now.emission.validity, now)
  | .text => return (.text now.emission.text, now)
  | .binary => return (.binary now.emission.binary, now)
  | .optimization => do
    match ← made.optimize now.kept with
    | (.ok (diagnostics, later), kept) => return (.optimization (.ok diagnostics), ⟨later, kept⟩)
    | (.error chain, kept) => return (.optimization (.error chain), ⟨now.emission, kept⟩)

/-- Asks a module one thing after another. -/
def askAll (made : Module) (now : Condition) : List Question → Errand (List Answer)
  | [] => return []
  | question :: rest => do
    let (answer, later) ← made.ask now question
    return answer :: (← made.askAll later rest)

end Module

/-- What a compiler hands back. -/
structure Compilation where
  /-- The module, or why there is none. -/
  result : Except Failure Module
  /-- What the compiler had to say, whether there is a module or not. -/
  diagnostics : List Diagnostic

/-- A compiler under test. -/
structure Compiler where
  /-- Compiles a file or a source held in memory. -/
  compile : CompilerInput → CompilerOptions → Errand Compilation

/-- A converter between text and binary. Debug names are kept on request. -/
structure Converter where
  /-- Converts text to binary. -/
  toBinary : (preserveNames : Bool) → String → Errand (Except Failure ByteArray)
  /-- Converts binary to text. -/
  toText : (preserveNames : Bool) → ByteArray → Errand (Except Failure String)

/-- Whether modules can be executed at all. -/
inductive Capability where
  /-- They can. -/
  | supported
  /-- They cannot, for a reason. -/
  | unsupported (reason : String)
  deriving DecidableEq

/-- Turns binaries into running instances. -/
structure Loader where
  /-- Whether modules can be executed at all. -/
  capability : Capability
  /-- Loads a binary. -/
  load : ByteArray → Load

/-- A loader where modules cannot be executed: it rejects every binary for the same reason. -/
def Loader.unsupported (reason : String) : Loader :=
  ⟨.unsupported reason, fun _ => .rejected (.plain reason)⟩

/-- One build of the compiler under test, with its tools. -/
structure Subject where
  /-- The name of the build. -/
  name : String
  /-- Its compiler. -/
  compiler : Compiler
  /-- Its converter. -/
  converter : Converter
  /-- The loader of its modules. -/
  loader : Loader

/-- How a subject is shown. -/
def Subject.inspect (subject : Subject) : String :=
  "Subject \x7b name: " ++ Text.quote subject.name ++ " \x7d"

end GoldenBench
