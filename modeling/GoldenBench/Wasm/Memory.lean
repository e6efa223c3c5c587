import Std.Data.HashMap
import GoldenBench.Wasm.Validity

/-!
# Memories

A memory is a number of pages of bytes. Bytes that were never set are zero.

* `Memory.read?` and `Memory.write?` access bytes, unless one of them lies beyond the end.
* `Memory.grow?` adds pages.
-/

namespace GoldenBench.Wasm

/-- A memory. -/
structure Memory where
  /-- The number of pages. -/
  pages : Nat
  /-- The most pages. -/
  limit : Nat
  /-- The bytes that were set, by their addresses. -/
  set : Std.HashMap Nat UInt8

namespace Memory

/-- The bytes of a page. -/
def pageSize : Nat := 65536

/-- A memory with these bounds. -/
def ofLimits (limits : Limits) : Memory :=
  ⟨limits.least, limits.most.getD Module.pageLimit, {}⟩

/-- The byte at an address. -/
def get (memory : Memory) (address : Nat) : UInt8 :=
  memory.set.getD address 0

/-- The bytes from an address on, unless they go beyond the end. -/
def read? (memory : Memory) (address count : Nat) : Option (List UInt8) :=
  if address + count ≤ memory.pages * pageSize then
    some ((List.range count).map fun n => memory.get (address + n))
  else none

/-- Sets bytes one after another. -/
def put (memory : Memory) (address : Nat) : List UInt8 → Memory
  | [] => memory
  | byte :: rest => put { memory with set := memory.set.insert address byte } (address + 1) rest

/-- The memory with bytes from an address on, unless they go beyond the end. -/
def write? (memory : Memory) (address : Nat) (bytes : List UInt8) : Option Memory :=
  if address + bytes.length ≤ memory.pages * pageSize then some (memory.put address bytes) else none

/-- The memory with more pages, unless there are too many. -/
def grow? (memory : Memory) (pages : Nat) : Option Memory :=
  if memory.pages + pages ≤ memory.limit then some { memory with pages := memory.pages + pages } else none

end Memory

/-- The number whose bytes stand lowest first. -/
def ofLittleEndian (bytes : List UInt8) : Nat :=
  bytes.foldr (fun byte value => byte.toNat + 256 * value) 0

/-- So many bytes of a number, lowest first. -/
def toLittleEndian (count n : Nat) : List UInt8 :=
  match count with
  | 0 => []
  | count + 1 => UInt8.ofNat n :: toLittleEndian count (n / 256)

end GoldenBench.Wasm
