import GoldenBench.Interop.Value

/-!
# WebAssembly modules

A `Module` is what the sections of a binary say, as data. Whether it makes sense is another matter.
-/

namespace GoldenBench.Wasm

/-- The types of values. -/
inductive ValueType where
  /-- Whole numbers of 32 bits. -/
  | i32
  /-- Whole numbers of 64 bits. -/
  | i64
  /-- Floating-point numbers of 32 bits. -/
  | f32
  /-- Floating-point numbers of 64 bits. -/
  | f64
  /-- References to functions. -/
  | function
  /-- References to something outside. -/
  | external
  deriving DecidableEq

/-- The values of this type are references. -/
def ValueType.isReference : ValueType → Bool
  | .function | .external => true
  | _ => false

/-- The type of a function: the types of its parameters and of its results. -/
structure FunctionType where
  /-- The types of the parameters. -/
  parameters : List ValueType
  /-- The types of the results. -/
  results : List ValueType
  deriving DecidableEq

/-- A value on the stack of a machine. The only reference that a machine makes refers to nothing. -/
inductive Operand where
  /-- A number. -/
  | number (value : Value)
  /-- A reference that refers to nothing. -/
  | null (type : ValueType)
  deriving DecidableEq

/-- The type of a number. -/
def ValueType.ofValue : Value → ValueType
  | .i32 _ => .i32
  | .i64 _ => .i64
  | .f32 _ => .f32
  | .f64 _ => .f64

/-- The type of an operand. -/
def Operand.type : Operand → ValueType
  | .number value => .ofValue value
  | .null type => type

/-- What a variable of a type holds at first. -/
def ValueType.initial : ValueType → Operand
  | .i32 => .number (.i32 0)
  | .i64 => .number (.i64 0)
  | .f32 => .number (.f32 0)
  | .f64 => .number (.f64 0)
  | type => .null type

/-- The widths of numbers. -/
inductive Width where
  /-- 32 bits. -/
  | w32
  /-- 64 bits. -/
  | w64
  deriving DecidableEq

/-- Operations on two whole numbers. -/
inductive IntegerOp where
  /-- The sum. -/
  | add
  /-- The difference. -/
  | sub
  /-- The product. -/
  | mul
  /-- The quotient, with signs. -/
  | divSigned
  /-- The quotient, without signs. -/
  | divUnsigned
  /-- The remainder, with the sign of the dividend. -/
  | remSigned
  /-- The remainder, without signs. -/
  | remUnsigned
  /-- The bits that both have. -/
  | and
  /-- The bits that either has. -/
  | or
  /-- The bits that one of both has. -/
  | xor
  /-- Bits moved up. -/
  | shiftLeft
  /-- Bits moved down, with copies of the sign above them. -/
  | shiftSigned
  /-- Bits moved down. -/
  | shiftUnsigned
  /-- Bits moved up and round. -/
  | rotateLeft
  /-- Bits moved down and round. -/
  | rotateRight
  deriving DecidableEq

/-- Relations between two whole numbers. -/
inductive IntegerRelation where
  /-- Equal. -/
  | equal
  /-- Different. -/
  | different
  /-- Less, with signs. -/
  | lessSigned
  /-- Less, without signs. -/
  | lessUnsigned
  /-- Greater, with signs. -/
  | greaterSigned
  /-- Greater, without signs. -/
  | greaterUnsigned
  /-- Less or equal, with signs. -/
  | atMostSigned
  /-- Less or equal, without signs. -/
  | atMostUnsigned
  /-- Greater or equal, with signs. -/
  | atLeastSigned
  /-- Greater or equal, without signs. -/
  | atLeastUnsigned
  deriving DecidableEq

/-- Operations on two floating-point numbers. -/
inductive FloatOp where
  /-- The sum. -/
  | add
  /-- The difference. -/
  | sub
  /-- The product. -/
  | mul
  /-- The quotient. -/
  | div
  deriving DecidableEq

/-- Conversions between numbers. -/
inductive Conversion where
  /-- The lower half of a whole number. -/
  | wrap
  /-- A whole number as a wider one, with its sign. -/
  | extendSigned
  /-- A whole number as a wider one, without a sign. -/
  | extendUnsigned
  /-- A floating-point number without its fraction. -/
  | truncate
  /-- A whole number as a floating-point number. -/
  | ofInteger
  /-- A floating-point number as a wider one. -/
  | promote
  /-- A floating-point number as a narrower one. -/
  | demote
  deriving DecidableEq

/-- Operations on numbers. -/
inductive Numeric where
  /-- An operation on two whole numbers. -/
  | integer (width : Width) (op : IntegerOp)
  /-- Whether a whole number is zero. -/
  | isZero (width : Width)
  /-- Whether two whole numbers stand in a relation. -/
  | compare (width : Width) (relation : IntegerRelation)
  /-- An operation on two floating-point numbers. -/
  | float (width : Width) (op : FloatOp)
  /-- A conversion. -/
  | convert (conversion : Conversion)
  deriving DecidableEq

/-- The type of a block. -/
inductive BlockType where
  /-- No parameters and at most one result. -/
  | short (result : Option ValueType)
  /-- A function type, by its place. -/
  | indexed (place : Nat)
  deriving DecidableEq

/-- How memory is accessed. -/
inductive Access where
  /-- Reads four bytes. -/
  | load
  /-- Reads one byte, without a sign. -/
  | loadByte
  /-- Writes four bytes. -/
  | store
  deriving DecidableEq

/-- Instructions. -/
inductive Instruction where
  /-- Stops for good. -/
  | unreachable
  /-- Does nothing. -/
  | nop
  /-- A block: a branch to it leaves it. -/
  | block (type : BlockType) (body : List Instruction)
  /-- A loop: a branch to it repeats it. -/
  | loop (type : BlockType) (body : List Instruction)
  /-- A choice; both sides are blocks. -/
  | branch (type : BlockType) (yes no : List Instruction)
  /-- Branches to the block so many blocks further out. -/
  | jump (label : Nat)
  /-- Branches if a number is not zero. -/
  | jumpIf (label : Nat)
  /-- Branches to the block that a number picks, or else to the last one. -/
  | jumpTable (labels : List Nat) (last : Nat)
  /-- Leaves the function. -/
  | leave
  /-- Calls a function. -/
  | call (function : Nat)
  /-- Forgets an operand. -/
  | drop
  /-- Picks one of two operands, of this type if it is given. -/
  | select (type : Option ValueType)
  /-- The value of a local. -/
  | getLocal (place : Nat)
  /-- Sets a local. -/
  | setLocal (place : Nat)
  /-- Sets a local and keeps the value. -/
  | teeLocal (place : Nat)
  /-- The value of a global. -/
  | getGlobal (place : Nat)
  /-- Sets a global. -/
  | setGlobal (place : Nat)
  /-- Accesses memory, at an offset; the alignment is a promise that nothing depends on. -/
  | access (access : Access) (memory alignment offset : Nat)
  /-- The size of a memory. -/
  | memorySize (memory : Nat)
  /-- Lets a memory grow. -/
  | memoryGrow (memory : Nat)
  /-- A number. -/
  | const (value : Value)
  /-- A reference that refers to nothing. -/
  | null (type : ValueType)
  /-- An operation on numbers. -/
  | numeric (op : Numeric)

/-- The bounds of the size of a table or a memory. -/
structure Limits where
  /-- The size at first. -/
  least : Nat
  /-- The greatest size. -/
  most : Option Nat
  deriving DecidableEq

/-- The type of a global. -/
structure GlobalType where
  /-- The type of its value. -/
  type : ValueType
  /-- It may be set. -/
  isMutable : Bool
  deriving DecidableEq

/-- What is imported. -/
inductive ImportKind where
  /-- A function, by the place of its type. -/
  | function (type : Nat)
  /-- A table. -/
  | table (type : ValueType) (limits : Limits)
  /-- A memory. -/
  | memory (limits : Limits)
  /-- A global. -/
  | global (type : GlobalType)
  deriving DecidableEq

/-- An import. -/
structure Import where
  /-- The module to import from. -/
  source : String
  /-- The name there. -/
  name : String
  /-- What is imported. -/
  kind : ImportKind
  deriving DecidableEq

/-- What is exported. -/
inductive ExportKind where
  /-- A function. -/
  | function
  /-- A table. -/
  | table
  /-- A memory. -/
  | memory
  /-- A global. -/
  | global
  deriving DecidableEq

/-- An export. -/
structure Export where
  /-- The name. -/
  name : String
  /-- What is exported. -/
  kind : ExportKind
  /-- Its place among its kind. -/
  place : Nat
  deriving DecidableEq

/-- A global of a module. -/
structure Global where
  /-- Its type. -/
  type : GlobalType
  /-- What its first value is computed by. -/
  start : List Instruction

/-- The code of a function. -/
structure Code where
  /-- The types of its locals. -/
  locals : List ValueType
  /-- Its body. -/
  body : List Instruction

/-- Bytes to put into a memory. -/
structure Segment where
  /-- The memory and what the address is computed by, unless the bytes are only kept. -/
  target : Option (Nat × List Instruction)
  /-- The bytes. -/
  bytes : List UInt8

/-- A module. -/
structure Module where
  /-- Function types. -/
  types : List FunctionType
  /-- Imports. -/
  imports : List Import
  /-- The places of the types of its functions. -/
  functions : List Nat
  /-- Its tables. -/
  tables : List (ValueType × Limits)
  /-- Its memories. -/
  memories : List Limits
  /-- Its globals. -/
  globals : List Global
  /-- Its exports. -/
  exports : List Export
  /-- The function to run first. -/
  start : Option Nat
  /-- The code of its functions. -/
  codes : List Code
  /-- Bytes to put into memories. -/
  segments : List Segment

namespace Module

/-- A module with nothing in it. -/
def empty : Module := ⟨[], [], [], [], [], [], [], none, [], []⟩

/-- The places of the types of all functions, imported ones first. -/
def allFunctions (module : Module) : List Nat :=
  module.imports.filterMap (fun entry => match entry.kind with
    | .function type => some type
    | _ => none) ++ module.functions

/-- All memories, imported ones first. -/
def allMemories (module : Module) : List Limits :=
  module.imports.filterMap (fun entry => match entry.kind with
    | .memory limits => some limits
    | _ => none) ++ module.memories

/-- All tables, imported ones first. -/
def allTables (module : Module) : List (ValueType × Limits) :=
  module.imports.filterMap (fun entry => match entry.kind with
    | .table type limits => some (type, limits)
    | _ => none) ++ module.tables

/-- The types of the imported globals. -/
def importedGlobals (module : Module) : List GlobalType :=
  module.imports.filterMap fun entry => match entry.kind with
    | .global type => some type
    | _ => none

/-- The types of all globals, imported ones first. -/
def allGlobals (module : Module) : List GlobalType :=
  module.importedGlobals ++ module.globals.map (·.type)

/-- The type of a function, by its place. -/
def functionType? (module : Module) (place : Nat) : Option FunctionType :=
  module.allFunctions[place]?.bind fun type => module.types[type]?

/-- The names of the exported functions. -/
def exportedFunctions (module : Module) : List String :=
  (module.exports.filter (·.kind = .function)).map (·.name)

/-- The type of a block as a function type. -/
def blockType? (module : Module) : BlockType → Option FunctionType
  | .short result => some ⟨[], result.toList⟩
  | .indexed place => module.types[place]?

end Module

/-- The type of the values of a width. -/
def Width.integer : Width → ValueType
  | .w32 => .i32
  | .w64 => .i64

/-- The type of the floating-point numbers of a width. -/
def Width.float : Width → ValueType
  | .w32 => .f32
  | .w64 => .f64

/-- The type of an operation on numbers. -/
def Numeric.type : Numeric → FunctionType
  | .integer width _ => ⟨[width.integer, width.integer], [width.integer]⟩
  | .isZero width => ⟨[width.integer], [.i32]⟩
  | .compare width _ => ⟨[width.integer, width.integer], [.i32]⟩
  | .float width _ => ⟨[width.float, width.float], [width.float]⟩
  | .convert .wrap => ⟨[.i64], [.i32]⟩
  | .convert .extendSigned | .convert .extendUnsigned => ⟨[.i32], [.i64]⟩
  | .convert .truncate => ⟨[.f64], [.i32]⟩
  | .convert .ofInteger => ⟨[.i32], [.f64]⟩
  | .convert .promote => ⟨[.f32], [.f64]⟩
  | .convert .demote => ⟨[.f64], [.f32]⟩

end GoldenBench.Wasm
