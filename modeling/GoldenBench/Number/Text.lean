import GoldenBench.Number.Binary

/-!
# Numbers as texts

How a floating-point number is written is decided by a `Style`: which exponents are written in full, whether a
whole number shows a fraction, how an exponent looks.

* `Style.plain` never uses an exponent, `Style.precise` always shows a fraction or an exponent.
* `Number.write` writes the bits of a number, `Number.parse?` reads a decimal text as the nearest number.
-/

namespace GoldenBench.Number

/-- How numbers are written. -/
structure Style where
  /-- The least power of ten of a first digit that is written in full. -/
  leastFull : Option Int
  /-- The greatest power of ten of a first digit that is written in full. -/
  greatestFull : Option Int
  /-- A whole number written in full ends in `.0`. -/
  showsFraction : Bool
  /-- A positive exponent has a plus sign. -/
  signsExponent : Bool

namespace Style

/-- All digits, never an exponent. -/
def plain : Style := ⟨none, none, false, false⟩

/-- A fraction or an exponent is always shown, and exponents are for the very small and the very large. -/
def precise : Style := ⟨some (-4), some 15, true, false⟩

/-- As JSON documents have it. -/
def document : Style := ⟨some (-5), some 15, true, true⟩

end Style

/-- A row of zeros. -/
def zeros (n : Nat) : String :=
  String.ofList (List.replicate n '0')

/-- A positive decimal in full. -/
def writeFull (showsFraction : Bool) (d : Decimal) : String :=
  let digits := Nat.toDigits 10 d.digits
  if 0 ≤ d.exponent then
    String.ofList digits ++ zeros d.exponent.toNat ++ if showsFraction then ".0" else ""
  else
    let places := (-d.exponent).toNat
    if digits.length ≤ places then "0." ++ zeros (places - digits.length) ++ String.ofList digits
    else String.ofList (digits.take (digits.length - places)) ++ "." ++
      String.ofList (digits.drop (digits.length - places))

/-- A positive decimal with an exponent. -/
def writeExponent (signsExponent : Bool) (d : Decimal) : String :=
  let digits := Nat.toDigits 10 d.digits
  let power := d.exponent + (digits.length - 1 : Nat)
  let mantissa := match digits with
    | [] => ""
    | [c] => String.singleton c
    | c :: rest => String.singleton c ++ "." ++ String.ofList rest
  mantissa ++ "e" ++ (if signsExponent && 0 ≤ power then "+" else "") ++ toString power

/-- A positive decimal in a style. -/
def Style.writeDecimal (style : Style) (d : Decimal) : String :=
  let power := d.exponent + ((Nat.toDigits 10 d.digits).length - 1 : Nat)
  if style.leastFull.all (· ≤ power) && style.greatestFull.all (power ≤ ·) then
    writeFull style.showsFraction d
  else writeExponent style.signsExponent d

/-- The text of the number that bits stand for. -/
def write (f : Format) (style : Style) (bits : Nat) : String :=
  match f.decode bits with
  | .nan => "NaN"
  | .infinite negative => if negative then "-inf" else "inf"
  | .finite negative significand exponent =>
    let sign := if negative then "-" else ""
    if significand = 0 then sign ++ if style.showsFraction then "0.0" else "0"
    else sign ++ style.writeDecimal (f.shortest significand exponent)

/-- The number that a row of decimal digits stands for. -/
def ofDigits (digits : List Char) : Nat :=
  digits.foldl (fun n c => 10 * n + (c.toNat - '0'.toNat)) 0

/-- The parts of a decimal text: the digits before and after the point and the exponent, if the text has that
form. -/
def decimalParts? (text : List Char) : Option (List Char × List Char × Int) :=
  let whole := text.takeWhile Char.isDigit
  let rest := text.dropWhile Char.isDigit
  let (fraction, rest) := match rest with
    | '.' :: more => (more.takeWhile Char.isDigit, more.dropWhile Char.isDigit)
    | rest => ([], rest)
  if whole.isEmpty && fraction.isEmpty then none
  else match rest with
    | [] => some (whole, fraction, 0)
    | e :: more =>
      if e != 'e' && e != 'E' then none
      else
        let (negative, digits) := match more with
          | '-' :: digits => (true, digits)
          | '+' :: digits => (false, digits)
          | digits => (false, digits)
        if digits.isEmpty || !digits.all Char.isDigit then none
        else some (whole, fraction, if negative then -(ofDigits digits : Int) else ofDigits digits)

/-- The greatest power of ten that is worked out; beyond it lie infinity and zero in every format. -/
def exponentLimit : Nat := 20000

/-- The bits of the number nearest to a decimal text. Infinities and what is not a number are read by name. -/
def parse? (f : Format) (text : String) : Option Nat :=
  let (negative, body) := match text.toList with
    | '-' :: rest => (true, rest)
    | '+' :: rest => (false, rest)
    | rest => (false, rest)
  let sign := if negative then Nat.pow 2 (f.fractionBits + f.exponentBits) else 0
  match String.ofList (body.map Char.toLower) with
  | "inf" | "infinity" => some (f.infinityBits negative)
  | "nan" => some (f.nanBits + sign)
  | _ => (decimalParts? body).map fun (whole, fraction, exponent) =>
    let digits := ofDigits (whole ++ fraction)
    let power := exponent - fraction.length
    if digits = 0 then sign
    else if power > exponentLimit then f.infinityBits negative
    else if power < -(exponentLimit : Int) then sign
    else if 0 ≤ power then f.ofRatio negative (digits * Nat.pow 10 power.toNat) 1
    else f.ofRatio negative digits (Nat.pow 10 (-power).toNat)

end GoldenBench.Number
