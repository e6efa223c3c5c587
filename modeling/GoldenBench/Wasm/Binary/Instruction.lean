import GoldenBench.Wasm.Binary.Integer
import GoldenBench.Wasm.Module

/-!
# Instructions in binaries

An instruction is an opcode and what it needs. The instructions of a block follow its opcode, up to an opcode that
ends them.

* `Reader.expression` reads instructions up to and with their end.
-/

namespace GoldenBench.Wasm.Reader

/-- The type of values that a byte stands for. -/
def valueType? (byte : UInt8) : Option ValueType :=
  match byte.toNat with
  | 0x7F => some .i32
  | 0x7E => some .i64
  | 0x7D => some .f32
  | 0x7C => some .f64
  | 0x70 => some .function
  | 0x6F => some .external
  | _ => none

/-- Reads a type of values. -/
def valueType : Reader ValueType := do
  match valueType? (← byte) with
  | some type => return type
  | none => failure

/-- Reads a type of references. -/
def referenceType : Reader ValueType := do
  let type ← valueType
  require type.isReference
  return type

/-- Reads the type of a block. -/
def blockType : Reader BlockType := do
  let first ← peek
  if first = 0x40 then
    let _ ← byte
    return .short none
  match valueType? first with
  | some type =>
    let _ ← byte
    return .short (some type)
  | none =>
    let place ← signed 33
    require (decide (0 ≤ place))
    return .indexed place.toNat

/-- Operations on whole numbers, in the order of their opcodes. -/
def integerOps : List IntegerOp :=
  [.add, .sub, .mul, .divSigned, .divUnsigned, .remSigned, .remUnsigned, .and, .or, .xor, .shiftLeft, .shiftSigned,
    .shiftUnsigned, .rotateLeft, .rotateRight]

/-- Relations between whole numbers, in the order of their opcodes. -/
def integerRelations : List IntegerRelation :=
  [.equal, .different, .lessSigned, .lessUnsigned, .greaterSigned, .greaterUnsigned, .atMostSigned,
    .atMostUnsigned, .atLeastSigned, .atLeastUnsigned]

/-- Operations on floating-point numbers, in the order of their opcodes. -/
def floatOps : List FloatOp := [.add, .sub, .mul, .div]

/-- The opcodes of conversions. -/
def conversions : List (Nat × Conversion) :=
  [(0xA7, .wrap), (0xAA, .truncate), (0xAC, .extendSigned), (0xAD, .extendUnsigned), (0xB6, .demote),
    (0xB7, .ofInteger), (0xBB, .promote)]

/-- Numbered from a first opcode on. -/
def numberedFrom {α β : Type} (first : Nat) (make : α → β) (items : List α) : List (Nat × β) :=
  items.zipIdx.map fun (item, n) => (first + n, make item)

/-- The opcodes of the operations on numbers. -/
def numerics : List (Nat × Numeric) :=
  [(0x45, .isZero .w32), (0x50, .isZero .w64)] ++
    numberedFrom 0x46 (.compare .w32) integerRelations ++ numberedFrom 0x51 (.compare .w64) integerRelations ++
    numberedFrom 0x6A (.integer .w32) integerOps ++ numberedFrom 0x7C (.integer .w64) integerOps ++
    numberedFrom 0x92 (.float .w32) floatOps ++ numberedFrom 0xA0 (.float .w64) floatOps ++
    conversions.map fun (opcode, conversion) => (opcode, .convert conversion)

/-- Reads the alignment and the offset of an access to memory, and the memory if it is not the first one. -/
def accessTo (access : Access) : Reader Instruction := do
  let flags ← place
  require (decide (flags < 128))
  let memory ← if 64 ≤ flags then place else pure 0
  return .access access memory (flags % 64) (← place)

/-- Reads what follows an opcode that no block hangs on. -/
def plain (opcode : Nat) : Reader Instruction := do
  match opcode with
  | 0x00 => return .unreachable
  | 0x01 => return .nop
  | 0x0C => return .jump (← place)
  | 0x0D => return .jumpIf (← place)
  | 0x0E => return .jumpTable (← list place) (← place)
  | 0x0F => return .leave
  | 0x10 => return .call (← place)
  | 0x1A => return .drop
  | 0x1B => return .select none
  | 0x1C =>
    match ← list valueType with
    | [type] => return .select (some type)
    | _ => failure
  | 0x20 => return .getLocal (← place)
  | 0x21 => return .setLocal (← place)
  | 0x22 => return .teeLocal (← place)
  | 0x23 => return .getGlobal (← place)
  | 0x24 => return .setGlobal (← place)
  | 0x28 => accessTo .load
  | 0x2D => accessTo .loadByte
  | 0x36 => accessTo .store
  | 0x3F => return .memorySize (← place)
  | 0x40 => return .memoryGrow (← place)
  | 0x41 => return .const (.i32 (Int32.ofInt (← signed 32)))
  | 0x42 => return .const (.i64 (Int64.ofInt (← signed 64)))
  | 0x43 => return .const (.f32 (UInt32.ofNat (← littleEndian 4)))
  | 0x44 => return .const (.f64 (UInt64.ofNat (← littleEndian 8)))
  | 0xD0 => return .null (← referenceType)
  | opcode =>
    match numerics.lookup opcode with
    | some op => return .numeric op
    | none => failure

/-- How a list of instructions ended. -/
inductive Ending where
  /-- For good. -/
  | last
  /-- Where the other side of a choice begins. -/
  | otherwise
  deriving DecidableEq

/-- Reads instructions up to and with the opcode that ends them. -/
def instructions (fuel : Nat) : Reader (List Instruction × Ending) := do
  match fuel with
  | 0 => failure
  | fuel + 1 =>
    let body : Reader (List Instruction) := do
      let (inside, ending) ← instructions fuel
      require (decide (ending = .last))
      return inside
    let followed (first : Instruction) : Reader (List Instruction × Ending) := do
      let (rest, ending) ← instructions fuel
      return (first :: rest, ending)
    match (← byte).toNat with
    | 0x0B => return ([], .last)
    | 0x05 => return ([], .otherwise)
    | 0x02 => followed (.block (← blockType) (← body))
    | 0x03 => followed (.loop (← blockType) (← body))
    | 0x04 =>
      let type ← blockType
      let (yes, ending) ← instructions fuel
      let no ← if ending = .otherwise then body else pure []
      followed (.branch type yes no)
    | opcode => followed (← plain opcode)

/-- Reads instructions up to and with their end. -/
def expression : Reader (List Instruction) := do
  let (body, ending) ← instructions ((← get).length + 1)
  require (decide (ending = .last))
  return body

end GoldenBench.Wasm.Reader
