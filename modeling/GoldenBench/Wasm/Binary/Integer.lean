/-!
# Integers in binaries

A binary is read from the front; what cannot be read answers none. A whole number is written in groups of seven
bits, the lowest group first, and every byte but the last has its highest bit set. Bits beyond the width of the
number must agree with its sign.

* `Reader.unsigned` and `Reader.signed` read numbers of a width.
-/

namespace GoldenBench.Wasm

/-- Reads from the front of bytes. -/
abbrev Reader (α : Type) := StateT (List UInt8) Option α

namespace Reader

/-- Reads one byte. -/
def byte : Reader UInt8 := fun bytes =>
  match bytes with
  | [] => none
  | first :: rest => some (first, rest)

/-- The next byte, which stays. -/
def peek : Reader UInt8 := fun bytes =>
  match bytes with
  | [] => none
  | first :: rest => some (first, first :: rest)

/-- Reads a number of bytes. -/
def bytes (count : Nat) : Reader (List UInt8) := fun bytes =>
  if count ≤ bytes.length then some (bytes.take count, bytes.drop count) else none

/-- Requires a condition. -/
def require (condition : Bool) : Reader Unit := fun bytes =>
  if condition then some ((), bytes) else none

/-- Reads a whole number without a sign, of a width. -/
def unsigned (width : Nat) : Reader Nat := do
  let group := (← byte).toNat
  if group < 128 then
    require (decide (group < Nat.pow 2 width))
    return group
  else if h : 7 < width then
    return group - 128 + 128 * (← unsigned (width - 7))
  else failure
termination_by width

/-- Reads a whole number with a sign, of a width. -/
def signed (width : Nat) : Reader Int := do
  let group := (← byte).toNat
  if group < 128 then
    let value : Int := if group < 64 then group else group - 128
    require (decide (-Nat.pow 2 (width - 1) ≤ value ∧ value < Nat.pow 2 (width - 1)))
    return value
  else if h : 7 < width then
    return group - 128 + 128 * (← signed (width - 7))
  else failure
termination_by width

/-- Reads a place or a count. -/
def place : Reader Nat := unsigned 32

/-- Repeats a reader. -/
def times {α : Type} (count : Nat) (item : Reader α) : Reader (List α) :=
  match count with
  | 0 => return []
  | count + 1 => return (← item) :: (← times count item)

/-- Reads a count and as many items. -/
def list {α : Type} (item : Reader α) : Reader (List α) := do
  times (← place) item

/-- Reads a name. -/
def name : Reader String := do
  let text := String.fromUTF8? ⟨(← bytes (← place)).toArray⟩
  match text with
  | some text => return text
  | none => failure

/-- Reads a whole number whose bytes stand lowest first. -/
def littleEndian (count : Nat) : Reader Nat := do
  return (← bytes count).foldr (fun byte value => byte.toNat + 256 * value) 0

/-- Reads a part that takes exactly so many bytes. -/
def within {α : Type} (size : Nat) (part : Reader α) : Reader α := do
  match part (← bytes size) with
  | some (value, []) => return value
  | _ => failure

end Reader

end GoldenBench.Wasm
