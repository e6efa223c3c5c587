import GoldenBench.Number.Arithmetic
import GoldenBench.Wasm.Module

/-!
# Arithmetic of WebAssembly

Whole numbers are words of bits that wrap around; an operation without a result gives none.

* `Numeric.eval` is an operation on numbers.
-/

namespace GoldenBench.Wasm

/-- The result of an operation on words. There is no quotient by zero, and none that does not fit. -/
def IntegerOp.eval {n : Nat} (op : IntegerOp) (a b : BitVec n) : Option (BitVec n) :=
  match op with
  | .add => some (a + b)
  | .sub => some (a - b)
  | .mul => some (a * b)
  | .divSigned => if b = 0 ∨ (a = BitVec.intMin n ∧ b = BitVec.allOnes n) then none else some (a.sdiv b)
  | .divUnsigned => if b = 0 then none else some (a.udiv b)
  | .remSigned => if b = 0 then none else some (a.srem b)
  | .remUnsigned => if b = 0 then none else some (a.umod b)
  | .and => some (a &&& b)
  | .or => some (a ||| b)
  | .xor => some (a ^^^ b)
  | .shiftLeft => some (a <<< (b.toNat % n))
  | .shiftSigned => some (a.sshiftRight (b.toNat % n))
  | .shiftUnsigned => some (a >>> (b.toNat % n))
  | .rotateLeft => some (a.rotateLeft (b.toNat % n))
  | .rotateRight => some (a.rotateRight (b.toNat % n))

/-- Two words stand in a relation. -/
def IntegerRelation.holds {n : Nat} (relation : IntegerRelation) (a b : BitVec n) : Bool :=
  match relation with
  | .equal => a == b
  | .different => a != b
  | .lessSigned => a.slt b
  | .lessUnsigned => a.ult b
  | .greaterSigned => b.slt a
  | .greaterUnsigned => b.ult a
  | .atMostSigned => a.sle b
  | .atMostUnsigned => a.ule b
  | .atLeastSigned => b.sle a
  | .atLeastUnsigned => b.ule a

/-- The result of an operation on floating-point numbers of a format. -/
def FloatOp.eval (f : Number.Format) (op : FloatOp) (a b : Nat) : Nat :=
  match op with
  | .add => f.add a b
  | .sub => f.sub a b
  | .mul => f.mul a b
  | .div => f.div a b

/-- A condition as a number. -/
def truth (condition : Bool) : Value := .i32 (if condition then 1 else 0)

/-- The result of an operation on numbers, if its operands are of the right types and it has a result. -/
def Numeric.eval (op : Numeric) (operands : List Value) : Option Value :=
  match op, operands with
  | .integer .w32 op, [.i32 a, .i32 b] => (op.eval a.toBitVec b.toBitVec).map fun word => .i32 (Int32.ofBitVec word)
  | .integer .w64 op, [.i64 a, .i64 b] => (op.eval a.toBitVec b.toBitVec).map fun word => .i64 (Int64.ofBitVec word)
  | .isZero .w32, [.i32 a] => some (truth (a == 0))
  | .isZero .w64, [.i64 a] => some (truth (a == 0))
  | .compare .w32 relation, [.i32 a, .i32 b] => some (truth (relation.holds a.toBitVec b.toBitVec))
  | .compare .w64 relation, [.i64 a, .i64 b] => some (truth (relation.holds a.toBitVec b.toBitVec))
  | .float .w32 op, [.f32 a, .f32 b] => some (.f32 (UInt32.ofNat (op.eval .single a.toNat b.toNat)))
  | .float .w64 op, [.f64 a, .f64 b] => some (.f64 (UInt64.ofNat (op.eval .double a.toNat b.toNat)))
  | .convert .wrap, [.i64 a] => some (.i32 (Int32.ofBitVec (a.toBitVec.setWidth 32)))
  | .convert .extendSigned, [.i32 a] => some (.i64 (Int64.ofBitVec (a.toBitVec.signExtend 64)))
  | .convert .extendUnsigned, [.i32 a] => some (.i64 (Int64.ofBitVec (a.toBitVec.setWidth 64)))
  | .convert .truncate, [.f64 a] =>
    match Number.Format.double.truncate? a.toNat with
    | some n => if -2147483648 ≤ n ∧ n < 2147483648 then some (.i32 (Int32.ofInt n)) else none
    | none => none
  | .convert .ofInteger, [.i32 a] => some (.f64 (UInt64.ofNat (Number.Format.double.ofInt a.toInt)))
  | .convert .promote, [.f32 a] =>
    some (.f64 (UInt64.ofNat (Number.Format.convert .single .double a.toNat)))
  | .convert .demote, [.f64 a] =>
    some (.f32 (UInt32.ofNat (Number.Format.convert .double .single a.toNat)))
  | _, _ => none

end GoldenBench.Wasm
