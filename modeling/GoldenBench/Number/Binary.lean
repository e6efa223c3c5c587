/-!
# Binary floating-point numbers

A format gives the width of the fraction and of the exponent. A finite number of the format is a whole number
times a power of two; its sign is kept apart.

* `Format.decode` takes the bits of a number apart, `Format.ofRatio` finds the number nearest to a ratio (a tie
  goes to the even significand).
* `Format.shortest` gives the fewest decimal digits that read back as the same number, and of those the nearest.
-/

namespace GoldenBench.Number

/-- A binary floating-point format with a sign bit, an exponent field and a fraction field. -/
structure Format where
  /-- The width of the fraction field. -/
  fractionBits : Nat
  /-- The width of the exponent field. -/
  exponentBits : Nat

namespace Format

/-- Thirty-two bits. -/
def single : Format := ⟨23, 8⟩

/-- Sixty-four bits. -/
def double : Format := ⟨52, 11⟩

/-- The exponent field of infinities and of what is not a number. -/
def specialField (f : Format) : Nat := Nat.pow 2 f.exponentBits - 1

/-- The exponent of the unit in the last place of the smallest numbers. -/
def leastExponent (f : Format) : Int := 2 - (Nat.pow 2 (f.exponentBits - 1) : Nat) - f.fractionBits

end Format

/-- What the bits of a number stand for. -/
inductive Decoded where
  /-- Not a number. -/
  | nan
  /-- An infinity. -/
  | infinite (negative : Bool)
  /-- The number `significand * 2 ^ exponent`, with its sign. -/
  | finite (negative : Bool) (significand : Nat) (exponent : Int)

namespace Format

/-- The number that bits stand for. -/
def decode (f : Format) (bits : Nat) : Decoded :=
  let fraction := bits % Nat.pow 2 f.fractionBits
  let field := bits / Nat.pow 2 f.fractionBits % Nat.pow 2 f.exponentBits
  let negative := bits / Nat.pow 2 (f.fractionBits + f.exponentBits) % 2 == 1
  if field = f.specialField then if fraction = 0 then .infinite negative else .nan
  else if field = 0 then .finite negative fraction f.leastExponent
  else .finite negative (fraction + Nat.pow 2 f.fractionBits) (f.leastExponent + (field - 1 : Nat))

/-- The bits of an infinity. -/
def infinityBits (f : Format) (negative : Bool) : Nat :=
  f.specialField * Nat.pow 2 f.fractionBits + if negative then Nat.pow 2 (f.fractionBits + f.exponentBits) else 0

/-- The bits of the plain value that is not a number. -/
def nanBits (f : Format) : Nat :=
  f.specialField * Nat.pow 2 f.fractionBits + Nat.pow 2 (f.fractionBits - 1)

end Format

/-- The whole number nearest to `num / den`; a tie goes to the even one. -/
def roundRatio (num den : Nat) : Nat :=
  let q := num / den
  let r := num % den
  if 2 * r < den then q else if den < 2 * r then q + 1 else if q % 2 = 0 then q else q + 1

/-- A ratio times a power of two. -/
def scaleRatio (num den : Nat) (exponent : Int) : Nat × Nat :=
  if 0 ≤ exponent then (num * Nat.pow 2 exponent.toNat, den) else (num, den * Nat.pow 2 (-exponent).toNat)

namespace Format

/-- The bits of the number nearest to `num / den`, with the given sign. Beyond the largest number lies infinity. -/
def ofRatio (f : Format) (negative : Bool) (num den : Nat) : Nat :=
  let sign := if negative then Nat.pow 2 (f.fractionBits + f.exponentBits) else 0
  if num = 0 then sign
  else
    let guess : Int := (num.log2 : Int) - den.log2 - f.fractionBits
    let trial := scaleRatio num den (-guess)
    let floor := if trial.1 / trial.2 < Nat.pow 2 f.fractionBits then guess - 1 else guess
    let exponent := max floor f.leastExponent
    let scaled := scaleRatio num den (-exponent)
    let significand := roundRatio scaled.1 scaled.2
    let step := (exponent - f.leastExponent).toNat
    let magnitude := if significand < Nat.pow 2 f.fractionBits then significand
      else step * Nat.pow 2 f.fractionBits + significand
    if f.infinityBits false ≤ magnitude then sign + f.infinityBits false else sign + magnitude

end Format

/-- A positive number in decimal: `digits * 10 ^ exponent`. -/
structure Decimal where
  /-- The significant digits, read as one whole number. -/
  digits : Nat
  /-- The power of ten of the last digit. -/
  exponent : Int

/-- The decimal without zeros at the end of its digits. -/
def Decimal.trimmed (fuel : Nat) (d : Decimal) : Decimal :=
  match fuel with
  | 0 => d
  | fuel + 1 => if d.digits ≠ 0 ∧ d.digits % 10 = 0 then trimmed fuel ⟨d.digits / 10, d.exponent + 1⟩ else d

/-- The point of the grid of multiples of `10 ^ exponent` that reads back: of the two neighbours of
`num / den` those between `low / den` and `high / den` (the ends included on request), the nearer first. -/
def gridPoint? (num low high den : Nat) (ends : Bool) (exponent : Int) : Option Nat :=
  let unit := if 0 ≤ exponent then Nat.pow 10 exponent.toNat else 1
  let scale := if 0 ≤ exponent then 1 else Nat.pow 10 (-exponent).toNat
  let inside (k : Nat) : Bool :=
    let x := k * unit * den
    (low * scale < x && x < high * scale) || (ends && (x == low * scale || x == high * scale))
  let k := num * scale / (den * unit)
  let below := num * scale - k * unit * den
  let above := (k + 1) * unit * den - num * scale
  match inside k && k != 0, inside (k + 1) with
  | true, true => if below < above || (below == above && k % 2 == 0) then some k else some (k + 1)
  | true, false => some k
  | false, true => some (k + 1)
  | false, false => none

/-- The first grid, from `exponent` down, that holds a point which reads back. -/
def firstGrid (num low high den : Nat) (ends : Bool) (steps : Nat) (exponent : Int) : Decimal :=
  match steps with
  | 0 => ⟨0, 0⟩
  | steps + 1 =>
    match gridPoint? num low high den ends exponent with
    | some k => ⟨k, exponent⟩
    | none => firstGrid num low high den ends steps (exponent - 1)

/-- The fewest decimal digits that read back as `significand * 2 ^ exponent`, a number of the format other than
zero, and of those the nearest. -/
def Format.shortest (f : Format) (significand : Nat) (exponent : Int) : Decimal :=
  let narrow := significand == Nat.pow 2 f.fractionBits && exponent != f.leastExponent
  let ratio := scaleRatio (4 * significand) 4 exponent
  let unit := (scaleRatio 1 1 exponent).1
  let low := ratio.1 - (if narrow then unit else 2 * unit)
  let high := ratio.1 + 2 * unit
  let top : Int := ((Nat.toDigits 10 (ratio.1 / ratio.2)).length : Int)
  let start := if ratio.1 / ratio.2 = 0 then
      2 - ((Nat.toDigits 10 (ratio.2 / ratio.1)).length : Int)
    else top
  (firstGrid ratio.1 low high ratio.2 (significand % 2 == 0) 25 start).trimmed 25

end GoldenBench.Number
