import GoldenBench.Wasm.Arithmetic
import GoldenBench.Wasm.Memory

/-!
# The machine that runs modules

A machine takes one step after another. It holds the functions that are under way, the innermost first; each of
them holds the blocks that it is in. A block keeps what lies below its own operands, so a branch carries some
operands out and forgets the rest.

* `Machine.step` is one step and `Machine.run` all of them; a call that takes too many steps or is too deep is
  stopped.
* What a call changes in globals and memories stays, also when it is stopped.
-/

namespace GoldenBench.Wasm

/-- What of an instance changes. -/
structure Contents where
  /-- The values of the globals. -/
  globals : List Operand
  /-- The memories. -/
  memories : List Memory

/-- Why a call was stopped. -/
inductive Trap where
  /-- An instruction had no result. -/
  | failed
  /-- Code asked to abort, at a message and a place. -/
  | aborted (message file line column : Int32)
  /-- The call was too long or too deep. -/
  | exhausted
  deriving DecidableEq

/-- A block that is under way. -/
structure Label where
  /-- The number of operands that a branch to it carries. -/
  carried : Nat
  /-- What a branch to it goes on with. -/
  target : List Instruction
  /-- What follows its end. -/
  after : List Instruction
  /-- The operands below its own. -/
  below : List Operand

/-- A function that is under way. -/
structure Activation where
  /-- The number of its results. -/
  results : Nat
  /-- Its locals. -/
  locals : List Operand
  /-- The blocks that it is in, the innermost first. -/
  labels : List Label
  /-- What is to be done. -/
  code : List Instruction
  /-- The operands of the innermost block, the top one first. -/
  operands : List Operand

/-- A machine. -/
structure Machine where
  /-- The innermost function. -/
  current : Activation
  /-- The functions that wait for it, the innermost first. -/
  callers : List Activation
  /-- What of the instance changes. -/
  contents : Contents

/-- What comes of a step. -/
inductive Progress where
  /-- The machine goes on. -/
  | running (machine : Machine)
  /-- The outermost function returned. -/
  | done (results : List Operand) (contents : Contents)
  /-- The call was stopped. -/
  | stopped (trap : Trap) (contents : Contents)

/-- What a function of a module is when it runs. -/
inductive Callee where
  /-- Code of the module. -/
  | code (type : FunctionType) (code : Code)
  /-- The import that asks to abort. -/
  | abort
  /-- An import of no known meaning. -/
  | unknown

/-- The type of the import that asks to abort. -/
def abortType : FunctionType := ⟨[.i32, .i32, .i32, .i32], []⟩

/-- An import asks to abort. -/
def Import.isAbort (entry : Import) : Bool :=
  entry.source = "env" && entry.name = "abort"

/-- The function at a place. -/
def Module.callee? (module : Module) (place : Nat) : Option Callee :=
  let imported := module.imports.filter fun entry => entry.kind matches .function _
  match imported[place]? with
  | some entry => some (if entry.isAbort then .abort else .unknown)
  | none => do
    let type ← module.functionType? place
    return .code type (← module.codes[place - imported.length]?)

namespace Machine

/-- The machine after a step within the current function. -/
def goOn (machine : Machine) (activation : Activation) : Progress :=
  .running { machine with current := activation }

/-- The machine after an instruction that leaves these operands. -/
def next (machine : Machine) (rest : List Instruction) (operands : List Operand) : Progress :=
  machine.goOn { machine.current with code := rest, operands := operands }

/-- The machine stopped. -/
def stop (machine : Machine) (trap : Trap) : Progress := .stopped trap machine.contents

/-- Returns from the current function. -/
def leave (machine : Machine) : Progress :=
  let results := machine.current.operands.take machine.current.results
  match machine.callers with
  | [] => .done results machine.contents
  | caller :: callers =>
    .running ⟨{ caller with operands := results ++ caller.operands }, callers, machine.contents⟩

/-- Branches to a block, by its place from the innermost one. The function itself is the outermost block. -/
def jump (machine : Machine) (label : Nat) (operands : List Operand) : Progress :=
  let activation := machine.current
  match activation.labels[label]? with
  | none => leave { machine with current := { activation with operands := operands } }
  | some target =>
    machine.goOn { activation with
      labels := activation.labels.drop (label + 1)
      code := target.target
      operands := operands.take target.carried ++ target.below }

/-- Enters a block with operands on the stack. -/
def enter (machine : Machine) (carried taken : Nat) (body target after : List Instruction)
    (operands : List Operand) : Progress :=
  machine.goOn { machine.current with
    labels := ⟨carried, target, after, operands.drop taken⟩ :: machine.current.labels
    code := body
    operands := operands.take taken }

/-- Goes on behind the end of a block, or of the function. -/
def finish (machine : Machine) : Progress :=
  match machine.current.labels with
  | [] => machine.leave
  | label :: labels =>
    machine.goOn { machine.current with
      labels := labels
      code := label.after
      operands := machine.current.operands ++ label.below }

/-- The most functions under way at once. -/
def depthLimit : Nat := 10000

/-- Calls a function. -/
def call (module : Module) (machine : Machine) (place : Nat) (rest : List Instruction) (operands : List Operand) :
    Progress :=
  match module.callee? place, operands with
  | some (.code type code), _ =>
    if depthLimit ≤ machine.callers.length then machine.stop .exhausted
    else
      let count := type.parameters.length
      let locals := (operands.take count).reverse ++ code.locals.map ValueType.initial
      let caller := { machine.current with code := rest, operands := operands.drop count }
      .running ⟨⟨type.results.length, locals, [], code.body, []⟩, caller :: machine.callers, machine.contents⟩
  | some .abort, .number (.i32 column) :: .number (.i32 line) :: .number (.i32 file) ::
      .number (.i32 message) :: _ => machine.stop (.aborted message file line column)
  | _, _ => machine.stop .failed

/-- Changes a memory. -/
def withMemory (machine : Machine) (place : Nat) (memory : Memory) : Machine :=
  { machine with contents := { machine.contents with memories := machine.contents.memories.set place memory } }

/-- Accesses memory. -/
def access (machine : Machine) (access : Access) (place offset : Nat) (rest : List Instruction)
    (operands : List Operand) : Progress :=
  match machine.contents.memories[place]?, access, operands with
  | some memory, .store, .number (.i32 value) :: .number (.i32 address) :: operands =>
    match memory.write? (address.toUInt32.toNat + offset) (toLittleEndian 4 value.toUInt32.toNat) with
    | some memory => (machine.withMemory place memory).next rest operands
    | none => machine.stop .failed
  | some memory, access, .number (.i32 address) :: operands =>
    match memory.read? (address.toUInt32.toNat + offset) (if access = .load then 4 else 1) with
    | some bytes => machine.next rest (.number (.i32 (UInt32.ofNat (ofLittleEndian bytes)).toInt32) :: operands)
    | none => machine.stop .failed
  | _, _, _ => machine.stop .failed

/-- Lets a memory grow; the answer is its size before, or minus one. -/
def grow (machine : Machine) (place : Nat) (rest : List Instruction) (operands : List Operand) : Progress :=
  match machine.contents.memories[place]?, operands with
  | some memory, .number (.i32 pages) :: operands =>
    match memory.grow? pages.toUInt32.toNat with
    | some grown =>
      (machine.withMemory place grown).next rest (.number (.i32 (Int32.ofNat memory.pages)) :: operands)
    | none => machine.next rest (.number (.i32 (-1)) :: operands)
  | _, _ => machine.stop .failed

/-- Computes with the numbers on top of the stack. -/
def compute (machine : Machine) (op : Numeric) (rest : List Instruction) (operands : List Operand) : Progress :=
  let count := op.type.parameters.length
  let numbers := (operands.take count).reverse.filterMap fun operand => match operand with
    | .number value => some value
    | .null _ => none
  match op.eval numbers with
  | some value => machine.next rest (.number value :: operands.drop count)
  | none => machine.stop .failed

/-- Executes an instruction, with what follows it. -/
def execute (module : Module) (machine : Machine) (instruction : Instruction) (rest : List Instruction) :
    Progress :=
  let activation := machine.current
  let stuck := machine.stop .failed
  let block (type : BlockType) (entered : FunctionType → Progress) : Progress :=
    match module.blockType? type with
    | some type => entered type
    | none => stuck
  match instruction, activation.operands with
  | .nop, operands => machine.next rest operands
  | .block type body, operands => block type fun type =>
      machine.enter type.results.length type.parameters.length body rest rest operands
  | .loop shape body, operands => block shape fun type =>
      machine.enter type.parameters.length type.parameters.length body (.loop shape body :: rest) rest operands
  | .branch type yes no, .number (.i32 condition) :: operands => block type fun type =>
      machine.enter type.results.length type.parameters.length (if condition = 0 then no else yes) rest rest operands
  | .jump label, operands => machine.jump label operands
  | .jumpIf label, .number (.i32 condition) :: operands =>
    if condition = 0 then machine.next rest operands else machine.jump label operands
  | .jumpTable labels last, .number (.i32 index) :: operands =>
    machine.jump (labels[index.toUInt32.toNat]?.getD last) operands
  | .leave, _ => machine.leave
  | .call place, operands => call module machine place rest operands
  | .drop, _ :: operands => machine.next rest operands
  | .select _, .number (.i32 condition) :: second :: first :: operands =>
    machine.next rest ((if condition = 0 then second else first) :: operands)
  | .getLocal place, operands =>
    match activation.locals[place]? with
    | some value => machine.next rest (value :: operands)
    | none => stuck
  | .setLocal place, value :: operands =>
    machine.goOn { activation with
      locals := activation.locals.set place value, code := rest, operands := operands }
  | .teeLocal place, value :: operands =>
    machine.goOn { activation with
      locals := activation.locals.set place value, code := rest, operands := value :: operands }
  | .getGlobal place, operands =>
    match machine.contents.globals[place]? with
    | some value => machine.next rest (value :: operands)
    | none => stuck
  | .setGlobal place, value :: operands =>
    let contents := { machine.contents with globals := machine.contents.globals.set place value }
    next { machine with contents := contents } rest operands
  | .access access place _ offset, operands => machine.access access place offset rest operands
  | .memorySize place, operands =>
    match machine.contents.memories[place]? with
    | some memory => machine.next rest (.number (.i32 (Int32.ofNat memory.pages)) :: operands)
    | none => stuck
  | .memoryGrow place, operands => machine.grow place rest operands
  | .const value, operands => machine.next rest (.number value :: operands)
  | .null type, operands => machine.next rest (.null type :: operands)
  | .numeric op, operands => machine.compute op rest operands
  | _, _ => stuck

/-- One step. -/
def step (module : Module) (machine : Machine) : Progress :=
  match machine.current.code with
  | [] => machine.finish
  | instruction :: rest => machine.execute module instruction rest

/-- Takes steps to the end, or as many as there may be. -/
def run (module : Module) (fuel : Nat) (machine : Machine) : Except Trap (List Operand) × Contents :=
  match fuel with
  | 0 => (.error .exhausted, machine.contents)
  | fuel + 1 =>
    match machine.step module with
    | .running machine => run module fuel machine
    | .done results contents => (.ok results, contents)
    | .stopped trap contents => (.error trap, contents)

/-- The most steps of a call. -/
def stepLimit : Nat := 1000000000

end Machine

/-- Calls the function at a place. The results are in the order of their types. -/
def Module.invoke (module : Module) (place : Nat) (arguments : List Operand) (contents : Contents) :
    Except Trap (List Operand) × Contents :=
  let results := (module.functionType? place).map (·.results.length)
  let outer : Activation := ⟨results.getD 0, [], [], [.call place], arguments.reverse⟩
  let (ending, contents) := Machine.run module Machine.stepLimit ⟨outer, [], contents⟩
  (ending.map List.reverse, contents)

end GoldenBench.Wasm
