import GoldenBench.Number.Text

/-!
# Values that cross into and out of an instance

* `Value.display` is how a value is shown with its type, `Value.inspect` how it looks in a failed check.
* `Value.same` compares values as numbers: what is not a number differs from itself, and the zeros agree.
-/

namespace GoldenBench

/-- A value of a running module. Floating-point numbers are kept by their bits. -/
inductive Value where
  /-- A whole number of 32 bits. -/
  | i32 (value : Int32)
  /-- A whole number of 64 bits. -/
  | i64 (value : Int64)
  /-- A floating-point number of 32 bits. -/
  | f32 (bits : UInt32)
  /-- A floating-point number of 64 bits. -/
  | f64 (bits : UInt64)
  deriving DecidableEq, Inhabited

namespace Value

/-- A value with its type. -/
def display : Value → String
  | .i32 value => "i32:" ++ toString value.toInt
  | .i64 value => "i64:" ++ toString value.toInt
  | .f32 bits => "f32:" ++ Number.write .single .plain bits.toNat
  | .f64 bits => "f64:" ++ Number.write .double .plain bits.toNat

/-- A value as it looks in a failed check. -/
def inspect : Value → String
  | .i32 value => "I32(" ++ toString value.toInt ++ ")"
  | .i64 value => "I64(" ++ toString value.toInt ++ ")"
  | .f32 bits => "F32(" ++ Number.write .single .precise bits.toNat ++ ")"
  | .f64 bits => "F64(" ++ Number.write .double .precise bits.toNat ++ ")"

end Value

/-- Two floating-point numbers are equal as numbers. -/
def Number.same (f : Number.Format) (a b : Nat) : Bool :=
  match f.decode a, f.decode b with
  | .finite _ 0 _, .finite _ 0 _ => true
  | .nan, _ => false
  | _, .nan => false
  | _, _ => a == b

/-- Two values are equal as numbers of one type. -/
def Value.same : Value → Value → Bool
  | .i32 a, .i32 b => a == b
  | .i64 a, .i64 b => a == b
  | .f32 a, .f32 b => Number.same .single a.toNat b.toNat
  | .f64 a, .f64 b => Number.same .double a.toNat b.toNat
  | _, _ => false

/-- Texts between square brackets, with commas between them. -/
def bracketed (items : List String) : String :=
  "[" ++ ", ".intercalate items ++ "]"

end GoldenBench
