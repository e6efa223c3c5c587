import GoldenBench.Json.Basic

/-!
# Reading the numbers of JSON documents

Where a reader stands is a `Cursor`: what is left and how many bytes were read. A number's digits are gathered
into a significand of at most 64 bits; digits that no longer fit only count towards the power of ten. A number
without fraction and exponent whose significand fits is whole; any other becomes a double by one multiplication
or division with a power of ten, or by several divisions if it is very small.
-/

namespace GoldenBench.Json

/-- What can be wrong with a text that should be a document. -/
inductive Fault where
  /-- The text ends within a list. -/
  | eofList
  /-- The text ends within an object. -/
  | eofObject
  /-- The text ends within a quoted text. -/
  | eofText
  /-- The text ends where a value should stand or go on. -/
  | eofValue
  /-- No colon stands between key and value. -/
  | expectedColon
  /-- A list neither goes on nor ends. -/
  | expectedListEnd
  /-- An object neither goes on nor ends. -/
  | expectedObjectEnd
  /-- A name is misspelt. -/
  | expectedName
  /-- No value starts here. -/
  | expectedValue
  /-- A backslash is followed by no known escape. -/
  | invalidEscape
  /-- A number is malformed. -/
  | invalidNumber
  /-- A number is too large. -/
  | numberOutOfRange
  /-- A control character stands in a quoted text. -/
  | controlCharacter
  /-- A key is not a quoted text. -/
  | keyNotText
  /-- Half of an escaped pair stands alone. -/
  | loneHalf
  /-- A comma stands before a closing bracket or brace. -/
  | trailingComma
  /-- The text goes on after the document. -/
  | trailingCharacters
  /-- The first half of an escaped pair is not followed by an escape. -/
  | endOfPair
  /-- The document nests too deep. -/
  | recursionLimit
  deriving DecidableEq

/-- The wording of a fault. -/
def Fault.message : Fault → String
  | .eofList => "EOF while parsing a list"
  | .eofObject => "EOF while parsing an object"
  | .eofText => "EOF while parsing a string"
  | .eofValue => "EOF while parsing a value"
  | .expectedColon => "expected `:`"
  | .expectedListEnd => "expected `,` or `]`"
  | .expectedObjectEnd => "expected `,` or `\x7d`"
  | .expectedName => "expected ident"
  | .expectedValue => "expected value"
  | .invalidEscape => "invalid escape"
  | .invalidNumber => "invalid number"
  | .numberOutOfRange => "number out of range"
  | .controlCharacter => "control character (\\u0000-\\u001F) found while parsing a string"
  | .keyNotText => "key must be a string"
  | .loneHalf => "lone leading surrogate in hex escape"
  | .trailingComma => "trailing comma"
  | .trailingCharacters => "trailing characters"
  | .endOfPair => "unexpected end of hex escape"
  | .recursionLimit => "recursion limit exceeded"

/-- A fault and the number of bytes up to it. -/
structure Error where
  /-- What is wrong. -/
  fault : Fault
  /-- The number of bytes up to the fault. -/
  column : Nat
  deriving DecidableEq

/-- The wording of an error in a text of one line. -/
def Error.message (error : Error) : String :=
  error.fault.message ++ " at line 1 column " ++ toString error.column

/-- Where a reader stands. -/
structure Cursor where
  /-- What is left to read. -/
  rest : List Char
  /-- The number of bytes read. -/
  column : Nat

namespace Cursor

/-- An error at what was read last. -/
def here (cursor : Cursor) (fault : Fault) : Error :=
  ⟨fault, cursor.column⟩

/-- An error at the byte looked at. -/
def ahead (cursor : Cursor) (fault : Fault) : Error :=
  ⟨fault, if cursor.rest.isEmpty then cursor.column else cursor.column + 1⟩

/-- The place after one more character. -/
def past (cursor : Cursor) (c : Char) (rest : List Char) : Cursor :=
  ⟨rest, cursor.column + c.utf8Size⟩

/-- The place after a number of digits. -/
def pastDigits (cursor : Cursor) (count : Nat) : Cursor :=
  ⟨cursor.rest.drop count, cursor.column + count⟩

end Cursor

/-- The greatest significand. -/
def greatestSignificand : Nat := 18446744073709551615

/-- Appends digits to a significand while it fits; the result counts the digits that were taken. -/
def gather (significand taken : Nat) : List Char → Nat × Nat
  | [] => (significand, taken)
  | c :: rest =>
    let next := 10 * significand + (c.toNat - '0'.toNat)
    if c.isDigit ∧ next ≤ greatestSignificand then gather next (taken + 1) rest else (significand, taken)

/-- The number of digits that a text starts with. -/
def digitCount (text : List Char) : Nat :=
  (text.takeWhile Char.isDigit).length

/-- A power of ten as a double. -/
def powerOfTen (n : Nat) : Float :=
  Float.ofScientific 1 false n

/-- The greatest power of ten that is a double. -/
def greatestPower : Nat := 308

/-- A double divided by a power of ten, at most `steps` times by the greatest one first. -/
def divideByPower (steps : Nat) (value : Float) (power : Nat) : Float :=
  if power ≤ greatestPower then value / powerOfTen power
  else
    match steps with
    | 0 => 0
    | steps + 1 => if value == 0 then value else
      divideByPower steps (value / powerOfTen greatestPower) (power - greatestPower)

/-- The double for a significand and a power of ten, if it is finite. -/
def scale? (significand : Nat) (power : Int) : Option Float :=
  let value := significand.toUInt64.toFloat
  if 0 ≤ power then
    if power ≤ greatestPower then
      let product := value * powerOfTen power.toNat
      if product.isInf then none else some product
    else if significand = 0 then some value else none
  else some (divideByPower 3 value (-power).toNat)

/-- A double as a value, with its sign. -/
def signed (positive : Bool) (value : Float) : Json :=
  .real (if positive then value else -value).toBits

/-- Ends a number at a significand and a power of ten. -/
def finishReal (positive : Bool) (significand : Nat) (power : Int) (cursor : Cursor) :
    Except Error (Json × Cursor) :=
  match scale? significand power with
  | some value => .ok (signed positive value, cursor)
  | none => .error (cursor.here .numberOutOfRange)

/-- The greatest exponent that is read to its end. -/
def greatestExponent : Nat := 2147483647

/-- The number of digits of an exponent up to the one that makes it too large. -/
def exponentOverflow? (value taken : Nat) : List Char → Option Nat
  | [] => none
  | c :: rest =>
    let next := 10 * value + (c.toNat - '0'.toNat)
    if greatestExponent < next then some (taken + 1) else exponentOverflow? next (taken + 1) rest

/-- Reads the digits of an exponent, a negative one if `down`. -/
def readPower (down positive : Bool) (significand : Nat) (power : Int) (cursor : Cursor) :
    Except Error (Json × Cursor) :=
  match cursor.rest with
  | [] => .error (cursor.here .eofValue)
  | c :: rest =>
    if !c.isDigit then .error ((cursor.past c rest).here .invalidNumber)
    else
      let digits := cursor.rest.takeWhile Char.isDigit
      match exponentOverflow? 0 0 digits with
      | some taken =>
        if significand ≠ 0 ∧ !down then .error ((cursor.pastDigits taken).here .numberOutOfRange)
        else .ok (signed positive 0, cursor.pastDigits digits.length)
      | none =>
        let exponent : Int := digits.foldl (fun n c => 10 * n + (c.toNat - '0'.toNat)) 0
        finishReal positive significand (if down then power - exponent else power + exponent)
          (cursor.pastDigits digits.length)

/-- Reads an exponent after its letter. -/
def readExponent (positive : Bool) (significand : Nat) (power : Int) (cursor : Cursor) :
    Except Error (Json × Cursor) :=
  match cursor.rest with
  | '+' :: rest => readPower false positive significand power (cursor.past '+' rest)
  | '-' :: rest => readPower true positive significand power (cursor.past '-' rest)
  | _ => readPower false positive significand power cursor

/-- Goes on after the digits of a number: with an exponent, or to its end. -/
def readScaled (positive : Bool) (significand : Nat) (power : Int) (cursor : Cursor) :
    Except Error (Json × Cursor) :=
  match cursor.rest with
  | 'e' :: rest => readExponent positive significand power (cursor.past 'e' rest)
  | 'E' :: rest => readExponent positive significand power (cursor.past 'E' rest)
  | _ => finishReal positive significand power cursor

/-- Reads a fraction after its point. -/
def readFraction (positive : Bool) (significand : Nat) (power : Int) (cursor : Cursor) :
    Except Error (Json × Cursor) :=
  let count := digitCount cursor.rest
  if count = 0 then
    .error (if cursor.rest.isEmpty then cursor.here .eofValue else cursor.ahead .invalidNumber)
  else
    let (significand, taken) := gather significand 0 cursor.rest
    readScaled positive significand (power - taken) (cursor.pastDigits count)

/-- Reads what follows the digits before the point; `power` counts those that did not fit. -/
def readAfterWhole (positive : Bool) (significand power : Nat) (cursor : Cursor) : Except Error (Json × Cursor) :=
  match cursor.rest with
  | '.' :: rest => readFraction positive significand power (cursor.past '.' rest)
  | 'e' :: rest => readExponent positive significand power (cursor.past 'e' rest)
  | 'E' :: rest => readExponent positive significand power (cursor.past 'E' rest)
  | _ =>
    if power = 0 then
      let value : Int := if positive then significand else -significand
      if positive || (significand ≠ 0 && leastWhole ≤ value) then .ok (.whole value, cursor)
      else .ok (signed positive significand.toUInt64.toFloat, cursor)
    else finishReal positive significand power cursor

/-- Reads a number after its sign. -/
def readNumber (positive : Bool) (cursor : Cursor) : Except Error (Json × Cursor) :=
  match cursor.rest with
  | [] => .error (cursor.here .eofValue)
  | c :: rest =>
    if c = '0' then
      let next := cursor.past c rest
      if (rest.head?.any Char.isDigit) then .error (next.ahead .invalidNumber) else readAfterWhole positive 0 0 next
    else if c.isDigit then
      let count := digitCount cursor.rest
      let (significand, taken) := gather 0 0 cursor.rest
      readAfterWhole positive significand (count - taken) (cursor.pastDigits count)
    else .error ((cursor.past c rest).here .invalidNumber)

end GoldenBench.Json
