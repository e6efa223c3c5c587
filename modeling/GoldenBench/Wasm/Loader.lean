import GoldenBench.Subject
import GoldenBench.Wasm.Binary.Sections
import GoldenBench.Wasm.Machine

/-!
# Loading WebAssembly

A binary is loaded in two steps: it must be a valid module, and then its imports, its segments and the function to
run first must come off well. An import of a function that is not known may be there as long as it is not called.

* `Module.instantiate` is the second step.
* `Wasm.loader` loads binaries.
-/

namespace GoldenBench.Wasm

/-- What is said of an abort. -/
def abortText (message file line column : Int32) : String :=
  "abort called (message at " ++ toString message.toInt ++ ", file at " ++ toString file.toInt ++ ", line " ++
    toString line.toInt ++ ", column " ++ toString column.toInt ++ ")"

/-- The wording of a trap. -/
def Trap.message : Trap → String
  | .failed => "the module trapped"
  | .aborted message file line column => abortText message file line column
  | .exhausted => "the call was too long or too deep"

namespace Module

/-- The type that an imported function has here: the one of the first import of that name, and for an abort a fixed
one. -/
def linkedType? (module : Module) (entry : Import) : Option FunctionType :=
  if entry.isAbort then some abortType
  else
    (module.imports.find? fun other => other.source = entry.source && other.name = entry.name).bind fun first =>
      match first.kind with
      | .function type => module.types[type]?
      | _ => none

/-- An import can be had. -/
def isLinked (module : Module) (entry : Import) : Bool :=
  match entry.kind with
  | .function type => module.linkedType? entry = module.types[type]?
  | _ => false

/-- The value that constant instructions compute, with the operands so far. -/
def constantFrom (globals : List Operand) : List Operand → List Instruction → Option Operand
  | operands, [] => operands.head?
  | operands, .const value :: rest => constantFrom globals (.number value :: operands) rest
  | operands, .null type :: rest => constantFrom globals (.null type :: operands) rest
  | operands, .getGlobal place :: rest =>
    match globals[place]? with
    | some value => constantFrom globals (value :: operands) rest
    | none => none
  | .number b :: .number a :: operands, .numeric op :: rest =>
    match op.eval [a, b] with
    | some value => constantFrom globals (.number value :: operands) rest
    | none => none
  | _, _ => none

/-- The first values of the globals, computed one after another. -/
def globalsFrom (globals : List Operand) : List Global → Option (List Operand)
  | [] => some globals
  | entry :: rest =>
    match constantFrom globals [] entry.start with
    | some value => globalsFrom (globals ++ [value]) rest
    | none => none

/-- Puts a segment into its memory. -/
def placeSegment (contents : Contents) (segment : Segment) : Option Contents :=
  match segment.target with
  | none => some contents
  | some (place, address) => do
    let .number (.i32 address) ← constantFrom contents.globals [] address | none
    let memory ← contents.memories[place]?
    let memory ← memory.write? address.toUInt32.toNat segment.bytes
    return { contents with memories := contents.memories.set place memory }

/-- What an instance of a module holds before anything has run. -/
def initialContents? (module : Module) : Option Contents := do
  if !module.imports.all module.isLinked then failure
  let globals ← globalsFrom [] module.globals
  module.segments.foldlM placeSegment ⟨globals, module.memories.map Memory.ofLimits⟩

/-- What an instance of a module holds once the function to run first has returned. -/
def instantiate (module : Module) : Except Trap Contents :=
  match module.initialContents? with
  | none => .error .failed
  | some contents =>
    match module.start with
    | none => .ok contents
    | some place =>
      match module.invoke place [] contents with
      | (.ok _, contents) => .ok contents
      | (.error trap, _) => .error trap

/-- The place of an exported function. -/
def exported? (module : Module) (name : String) : Option Nat :=
  (module.exports.find? fun entry => entry.name = name && entry.kind = .function).map (·.place)

/-- The numbers among operands, if all of them are numbers. -/
def numbers? (operands : List Operand) : Option (List Value) :=
  operands.mapM fun operand => match operand with
    | .number value => some value
    | .null _ => none

/-- The answer to a call of an export. Arguments must be of the types of the parameters. -/
def reply (module : Module) (contents : Contents) (name : String) (arguments : List Value) : Reply × Contents :=
  match module.exported? name with
  | none => (.error (.plain ("no exported function named " ++ name)), contents)
  | some place =>
    let failed (trap : Trap) : Reply := .error (.because ("calling " ++ name) trap.message)
    if (module.functionType? place).map (·.parameters) = some (arguments.map ValueType.ofValue) then
      match module.invoke place (arguments.map .number) contents with
      | (.error trap, contents) => (failed trap, contents)
      | (.ok results, contents) =>
        match numbers? results with
        | some values => (.values values, contents)
        | none => (.error (.plain "unsupported result"), contents)
    else (failed .failed, contents)

/-- The instance of a module. -/
def live (module : Module) (contents : Contents) : Instance where
  State := Contents
  state := contents
  exports := module.exportedFunctions
  call := module.reply

end Module

/-- Loads a binary. -/
def load (binary : ByteArray) : Load :=
  match (Module.ofBytes? binary.toList).filter Module.isValid with
  | none => .rejected (.because "Failed to compile module" "the module is malformed or invalid")
  | some module =>
    match module.instantiate with
    | .ok contents => .loaded (module.live contents)
    | .error trap => .rejected (.because "Failed to instantiate module" trap.message)

/-- The loader of WebAssembly. -/
def loader : Loader := ⟨.supported, load⟩

end GoldenBench.Wasm
