import GoldenBench.Number.Binary

/-!
# Arithmetic on binary floating-point numbers

Every result is the number of the format that is nearest to the exact one. Operations are on the bits of numbers.

* `Format.add`, `Format.sub`, `Format.mul` and `Format.div` are the four operations.
* `Format.convert` takes a number to another format and `Format.ofInt` a whole number; `Format.truncate?` drops the
  fraction of a number.
-/

namespace GoldenBench.Number

/-- A sign applied to a whole number. -/
def signed (negative : Bool) (magnitude : Nat) : Int :=
  if negative then -(magnitude : Int) else magnitude

namespace Format

/-- The bits of a zero. -/
def zeroBits (f : Format) (negative : Bool) : Nat := f.ofRatio negative 0 1

/-- The bits of the number nearest to `significand * 2 ^ exponent`. -/
def ofScaled (f : Format) (negative : Bool) (significand : Nat) (exponent : Int) : Nat :=
  let (num, den) := scaleRatio significand 1 exponent
  f.ofRatio negative num den

/-- The number with the other sign. -/
def negate (f : Format) (a : Nat) : Nat :=
  let sign := Nat.pow 2 (f.fractionBits + f.exponentBits)
  if a / sign % 2 = 1 then a - sign else a + sign

/-- The sum of two finite numbers. A sum of zero is negative only if both numbers are. -/
def addFinite (f : Format) (na : Bool) (sa : Nat) (ea : Int) (nb : Bool) (sb : Nat) (eb : Int) : Nat :=
  let least := min ea eb
  let total := signed na sa * Nat.pow 2 (ea - least).toNat + signed nb sb * Nat.pow 2 (eb - least).toNat
  if total = 0 then f.zeroBits (na && nb) else f.ofScaled (decide (total < 0)) total.natAbs least

/-- The sum of two numbers. -/
def add (f : Format) (a b : Nat) : Nat :=
  match f.decode a, f.decode b with
  | .nan, _ | _, .nan => f.nanBits
  | .infinite m, .infinite n => if m = n then f.infinityBits m else f.nanBits
  | .infinite m, _ => f.infinityBits m
  | _, .infinite n => f.infinityBits n
  | .finite na sa ea, .finite nb sb eb => f.addFinite na sa ea nb sb eb

/-- The difference of two numbers. -/
def sub (f : Format) (a b : Nat) : Nat := f.add a (f.negate b)

/-- The product of two numbers. -/
def mul (f : Format) (a b : Nat) : Nat :=
  match f.decode a, f.decode b with
  | .nan, _ | _, .nan => f.nanBits
  | .infinite m, .infinite n => f.infinityBits (m != n)
  | .infinite m, .finite n s _ => if s = 0 then f.nanBits else f.infinityBits (m != n)
  | .finite m s _, .infinite n => if s = 0 then f.nanBits else f.infinityBits (m != n)
  | .finite na sa ea, .finite nb sb eb => f.ofScaled (na != nb) (sa * sb) (ea + eb)

/-- The quotient of two numbers. -/
def div (f : Format) (a b : Nat) : Nat :=
  match f.decode a, f.decode b with
  | .nan, _ | _, .nan => f.nanBits
  | .infinite _, .infinite _ => f.nanBits
  | .infinite m, .finite n _ _ => f.infinityBits (m != n)
  | .finite m _ _, .infinite n => f.zeroBits (m != n)
  | .finite na sa ea, .finite nb sb eb =>
    if sb = 0 then if sa = 0 then f.nanBits else f.infinityBits (na != nb)
    else
      let (num, den) := scaleRatio sa sb (ea - eb)
      f.ofRatio (na != nb) num den

/-- The number of another format that is nearest to a number. -/
def convert (source target : Format) (a : Nat) : Nat :=
  match source.decode a with
  | .nan => target.nanBits
  | .infinite negative => target.infinityBits negative
  | .finite negative significand exponent => target.ofScaled negative significand exponent

/-- The number nearest to a whole number. -/
def ofInt (f : Format) (n : Int) : Nat :=
  f.ofRatio (decide (n < 0)) n.natAbs 1

/-- A number without its fraction, if it is finite. -/
def truncate? (f : Format) (a : Nat) : Option Int :=
  match f.decode a with
  | .finite negative significand exponent =>
    let (num, den) := scaleRatio significand 1 exponent
    some (signed negative (num / den))
  | _ => none

end Format

end GoldenBench.Number
