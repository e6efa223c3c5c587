import GoldenBench.Wasm.Binary.Instruction

/-!
# Modules in binaries

After eight bytes that mark a binary come sections, each with a number and a size. Sections of a kind stand in a
fixed order and at most once; a custom section may stand anywhere and says nothing about the module.

* `Module.ofBytes?` reads a module.
-/

namespace GoldenBench.Wasm

namespace Reader

/-- Reads the type of a function. -/
def functionType : Reader FunctionType := do
  require ((← byte) == 0x60)
  return ⟨← list valueType, ← list valueType⟩

/-- Reads bounds. -/
def limits : Reader Limits := do
  match (← byte).toNat with
  | 0x00 => return ⟨← place, none⟩
  | 0x01 => return ⟨← place, some (← place)⟩
  | _ => failure

/-- Reads the type of a table. -/
def tableType : Reader (ValueType × Limits) := do
  return (← referenceType, ← limits)

/-- Reads the type of a global. -/
def globalType : Reader GlobalType := do
  let type ← valueType
  let mark := (← byte).toNat
  require (decide (mark < 2))
  return ⟨type, mark == 1⟩

/-- Reads an import. -/
def importEntry : Reader Import := do
  let source ← name
  let item ← name
  match (← byte).toNat with
  | 0x00 => return ⟨source, item, .function (← place)⟩
  | 0x01 =>
    let (type, limits) ← tableType
    return ⟨source, item, .table type limits⟩
  | 0x02 => return ⟨source, item, .memory (← limits)⟩
  | 0x03 => return ⟨source, item, .global (← globalType)⟩
  | _ => failure

/-- Reads an export. -/
def exportEntry : Reader Export := do
  let item ← name
  let kind ← match (← byte).toNat with
    | 0x00 => pure ExportKind.function
    | 0x01 => pure .table
    | 0x02 => pure .memory
    | 0x03 => pure .global
    | _ => failure
  return ⟨item, kind, ← place⟩

/-- Reads a global. -/
def global : Reader Global := do
  return ⟨← globalType, ← expression⟩

/-- The most locals of a function. -/
def localLimit : Nat := 50000

/-- Reads groups of locals, each a count and a type. -/
def localGroups : Nat → Nat → Reader (List ValueType)
  | 0, _ => return []
  | groups + 1, room => do
    let count ← place
    let type ← valueType
    require (decide (count ≤ room))
    return List.replicate count type ++ (← localGroups groups (room - count))

/-- Reads the code of a function. -/
def code : Reader Code := do
  let size ← place
  within size do
    let locals ← localGroups (← place) localLimit
    return ⟨locals, ← expression⟩

/-- Reads bytes to put into a memory. -/
def segment : Reader Segment := do
  match ← place with
  | 0 =>
    let address ← expression
    return ⟨some (0, address), ← bytes (← place)⟩
  | 1 => return ⟨none, ← bytes (← place)⟩
  | 2 =>
    let memory ← place
    let address ← expression
    return ⟨some (memory, address), ← bytes (← place)⟩
  | _ => failure

/-- The place of a section in the order of sections, from its number. -/
def sectionOrder? (number : Nat) : Option Nat :=
  [1, 2, 3, 4, 5, 6, 7, 8, 10, 11].findIdx? (· = number)

/-- Reads what a section with a number adds to a module. -/
def sectionBody (number : Nat) (module : Module) : Reader Module := do
  match number with
  | 1 => return { module with types := ← list functionType }
  | 2 => return { module with imports := ← list importEntry }
  | 3 => return { module with functions := ← list place }
  | 4 => return { module with tables := ← list tableType }
  | 5 => return { module with memories := ← list limits }
  | 6 => return { module with globals := ← list global }
  | 7 => return { module with exports := ← list exportEntry }
  | 8 => return { module with start := some (← place) }
  | 10 => return { module with codes := ← list code }
  | 11 => return { module with segments := ← list segment }
  | _ => failure

/-- Reads a custom section of a size. -/
def customSection (size : Nat) : Reader Unit := do
  within size do
    let _ ← name
    set ([] : List UInt8)

/-- Reads sections to the end. Those of a kind must come later in the order than the ones before. -/
def sections (fuel next : Nat) (module : Module) : Reader Module := do
  match fuel with
  | 0 => failure
  | fuel + 1 =>
    if (← get).isEmpty then return module
    let number := (← byte).toNat
    let size ← place
    if number = 0 then
      customSection size
      sections fuel next module
    else
      match sectionOrder? number with
      | none => failure
      | some order =>
        require (decide (next ≤ order))
        let module ← within size (sectionBody number module)
        sections fuel (order + 1) module

/-- The bytes that mark a binary. -/
def mark : List UInt8 := [0x00, 0x61, 0x73, 0x6D, 0x01, 0x00, 0x00, 0x00]

/-- Reads a whole binary. -/
def module : Reader Module := do
  require ((← bytes 8) == mark)
  sections ((← get).length + 1) 0 .empty

end Reader

/-- Reads a module; the answer is none if the bytes are not those of a binary. -/
def Module.ofBytes? (bytes : List UInt8) : Option Module :=
  (Reader.module bytes).map (·.1)

end GoldenBench.Wasm
