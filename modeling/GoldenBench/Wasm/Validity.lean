import GoldenBench.Wasm.Module

/-!
# Valid modules

A module is valid if every place that it names is there and every instruction finds operands of the types that it
takes. What is known of the stack is an `Operands`: behind an instruction that is never passed, operands of any
type may be taken.

* `Module.isValid` is the whole check, `Scope.check` the check of instructions.
-/

namespace GoldenBench.Wasm

/-- What is known of the operands on a stack, the top one first. A type that is not known fits any. -/
structure Operands where
  /-- The types of the operands on top. -/
  known : List (Option ValueType)
  /-- Below those are operands of any number and type. -/
  unbounded : Bool

namespace Operands

/-- Operands of these types, the last one on top. -/
def ofTypes (types : List ValueType) : Operands := ⟨types.reverse.map some, false⟩

/-- Any operands at all. -/
def any : Operands := ⟨[], true⟩

/-- Takes an operand of any type. -/
def take (operands : Operands) : Option (Option ValueType × Operands) :=
  match operands.known, operands.unbounded with
  | type :: rest, _ => some (type, { operands with known := rest })
  | [], true => some (none, operands)
  | [], false => none

/-- Takes an operand of a type. -/
def takeOf (type : ValueType) (operands : Operands) : Option Operands := do
  let (found, rest) ← operands.take
  if found.all (· = type) then some rest else none

/-- Takes operands of these types, the last one from the top. -/
def takeAll (types : List ValueType) (operands : Operands) : Option Operands :=
  types.reverse.foldlM (fun operands type => operands.takeOf type) operands

/-- Puts operands of these types, the last one on top. -/
def put (types : List ValueType) (operands : Operands) : Operands :=
  { operands with known := types.reverse.map some ++ operands.known }

/-- These are all operands. -/
def areExactly (types : List ValueType) (operands : Operands) : Bool :=
  (operands.takeAll types).any (·.known.isEmpty)

end Operands

/-- What instructions may refer to. -/
structure Scope where
  /-- The module. -/
  module : Module
  /-- The types of the locals, parameters first. -/
  locals : List ValueType
  /-- What a branch to each block carries, the innermost block first; the last one is the function. -/
  labels : List (List ValueType)
  /-- The results of the function. -/
  results : List ValueType

namespace Scope

/-- The scope inside a block. -/
def inside (scope : Scope) (carried : List ValueType) : Scope :=
  { scope with labels := carried :: scope.labels }

/-- Takes and puts as a function of a type does. -/
def apply (type : FunctionType) (operands : Operands) : Option Operands :=
  (operands.takeAll type.parameters).map (·.put type.results)

/-- The type of an access to memory, and its width in bytes as a power of two. -/
def accessType : Access → FunctionType × Nat
  | .load => (⟨[.i32], [.i32]⟩, 2)
  | .loadByte => (⟨[.i32], [.i32]⟩, 0)
  | .store => (⟨[.i32, .i32], []⟩, 2)

/-- The operands after picking one of two. Without a type to pick, both must be numbers of one type. -/
def select (type : Option ValueType) (operands : Operands) : Option Operands := do
  let operands ← operands.takeOf .i32
  match type with
  | some type => return (← operands.takeAll [type, type]).put [type]
  | none =>
    let (first, rest) ← operands.take
    let (second, rest) ← rest.take
    let isNumber (type : Option ValueType) : Bool := !type.any (·.isReference)
    if isNumber first && isNumber second && (first = second || first.isNone || second.isNone) then
      return { rest with known := (first.or second) :: rest.known }
    failure

/-- The operands before a branch by a table: every block it may go to takes them. -/
def fitsTable (scope : Scope) (labels : List Nat) (last : Nat) (operands : Operands) : Bool :=
  match scope.labels[last]? with
  | none => false
  | some carried =>
    (labels ++ [last]).all fun label =>
      match scope.labels[label]? with
      | none => false
      | some types => types.length = carried.length && (operands.takeAll types).isSome

/-- The operands after an instruction that no block hangs on. -/
def checkPlain (scope : Scope) (instruction : Instruction) (operands : Operands) : Option Operands := do
  match instruction with
  | .unreachable => return .any
  | .jump label =>
    let carried ← scope.labels[label]?
    let _ ← operands.takeAll carried
    return .any
  | .jumpIf label =>
    let carried ← scope.labels[label]?
    apply ⟨carried, carried⟩ (← operands.takeOf .i32)
  | .jumpTable labels last =>
    let operands ← operands.takeOf .i32
    if scope.fitsTable labels last operands then return .any
    failure
  | .leave =>
    let _ ← operands.takeAll scope.results
    return .any
  | .call place => apply (← scope.module.functionType? place) operands
  | .drop => return (← operands.take).2
  | .select type => select type operands
  | .getLocal place => return operands.put [← scope.locals[place]?]
  | .setLocal place => operands.takeOf (← scope.locals[place]?)
  | .teeLocal place =>
    let type ← scope.locals[place]?
    apply ⟨[type], [type]⟩ operands
  | .getGlobal place => return operands.put [(← scope.module.allGlobals[place]?).type]
  | .setGlobal place =>
    let global ← scope.module.allGlobals[place]?
    if global.isMutable then operands.takeOf global.type else failure
  | .access access memory alignment _ =>
    let (type, widest) := accessType access
    if memory < scope.module.allMemories.length && alignment ≤ widest then apply type operands else failure
  | .memorySize memory =>
    if memory < scope.module.allMemories.length then return operands.put [.i32] else failure
  | .memoryGrow memory =>
    if memory < scope.module.allMemories.length then apply ⟨[.i32], [.i32]⟩ operands else failure
  | .const value => return operands.put [.ofValue value]
  | .null type => return operands.put [type]
  | .numeric op => apply op.type operands
  | _ => return operands

mutual

/-- The operands after an instruction. -/
def checkOne (scope : Scope) (instruction : Instruction) (operands : Operands) : Option Operands :=
  match instruction with
  | .block type body => do
    let type ← scope.module.blockType? type
    let operands ← operands.takeAll type.parameters
    let after ← (scope.inside type.results).check body (.ofTypes type.parameters)
    if after.areExactly type.results then return operands.put type.results
    failure
  | .loop type body => do
    let type ← scope.module.blockType? type
    let operands ← operands.takeAll type.parameters
    let after ← (scope.inside type.parameters).check body (.ofTypes type.parameters)
    if after.areExactly type.results then return operands.put type.results
    failure
  | .branch type yes no => do
    let type ← scope.module.blockType? type
    let operands ← (← operands.takeOf .i32).takeAll type.parameters
    let afterYes ← (scope.inside type.results).check yes (.ofTypes type.parameters)
    let afterNo ← (scope.inside type.results).check no (.ofTypes type.parameters)
    if afterYes.areExactly type.results && afterNo.areExactly type.results then return operands.put type.results
    failure
  | instruction => scope.checkPlain instruction operands

/-- The operands after instructions. -/
def check (scope : Scope) (body : List Instruction) (operands : Operands) : Option Operands :=
  match body with
  | [] => some operands
  | instruction :: rest =>
    match checkOne scope instruction operands with
    | some operands => check scope rest operands
    | none => none

end

end Scope

namespace Module

/-- The code of a function fits its type. -/
def fitsCode (module : Module) (type : Nat) (code : Code) : Bool :=
  match module.types[type]? with
  | none => false
  | some type =>
    let scope : Scope := ⟨module, type.parameters ++ code.locals, [type.results], type.results⟩
    (scope.check code.body (.ofTypes [])).any (·.areExactly type.results)

/-- An instruction that may compute the first value of a global or an address. -/
def isConstant (module : Module) : Instruction → Bool
  | .const _ | .null _ => true
  | .getGlobal place => module.importedGlobals[place]?.any (!·.isMutable)
  | .numeric (.integer _ op) => op = .add || op = .sub || op = .mul
  | _ => false

/-- Instructions compute a value of a type without depending on anything that changes. -/
def fitsConstant (module : Module) (type : ValueType) (body : List Instruction) : Bool :=
  let scope : Scope := ⟨module, [], [], []⟩
  body.all module.isConstant && (scope.check body (.ofTypes [])).any (·.areExactly [type])

/-- Bounds that hold a size and do not go beyond a limit. -/
def fitsLimits (limit : Nat) (limits : Limits) : Bool :=
  limits.least ≤ limit && limits.most.all fun most => limits.least ≤ most && most ≤ limit

/-- The most pages of a memory. -/
def pageLimit : Nat := 65536

/-- The greatest size of a table. -/
def tableLimit : Nat := 4294967295

/-- What an import refers to is there. -/
def fitsImport (module : Module) (entry : Import) : Bool :=
  match entry.kind with
  | .function type => type < module.types.length
  | .table _ limits => fitsLimits tableLimit limits
  | .memory limits => fitsLimits pageLimit limits
  | .global _ => true

/-- What an export refers to is there. -/
def fitsExport (module : Module) (entry : Export) : Bool :=
  entry.place < match entry.kind with
    | .function => module.allFunctions.length
    | .table => module.allTables.length
    | .memory => module.allMemories.length
    | .global => module.allGlobals.length

/-- What a segment refers to is there. -/
def fitsSegment (module : Module) (segment : Segment) : Bool :=
  segment.target.all fun (memory, address) =>
    memory < module.allMemories.length && module.fitsConstant .i32 address

/-- The module is valid. -/
def isValid (module : Module) : Bool :=
  module.imports.all module.fitsImport &&
  module.functions.all (· < module.types.length) &&
  module.tables.all (fun (_, limits) => fitsLimits tableLimit limits) &&
  module.memories.all (fitsLimits pageLimit) &&
  module.globals.all (fun global => module.fitsConstant global.type.type global.start) &&
  module.exports.all module.fitsExport &&
  (module.exports.map (·.name)).eraseDups.length = module.exports.length &&
  module.start.all (fun place => module.functionType? place = some ⟨[], []⟩) &&
  module.functions.length = module.codes.length &&
  (module.functions.zip module.codes).all (fun (type, code) => module.fitsCode type code) &&
  module.segments.all module.fitsSegment

end Module

end GoldenBench.Wasm
