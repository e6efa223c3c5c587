/-!
# Bytes as text

Bytes that are valid UTF-8 are read as they are. Of anything else, every longest start of a character that does not
go on as one becomes a single replacement character.

* `Text.ofBytes` reads bytes.
* `Text.firstFault?` finds the first place at which bytes are not valid UTF-8.
-/

namespace GoldenBench.Text

/-- What stands for bytes that are no character. -/
def replacement : Char := '\ufffd'

/-- The start of a character of several bytes. -/
structure Partial where
  /-- The bits read so far. -/
  value : Nat
  /-- The number of bytes that are missing, less one. -/
  missing : Nat
  /-- The least byte that goes on with the character. -/
  low : UInt8
  /-- The greatest byte that goes on with the character. -/
  high : UInt8

/-- What a first byte starts: a character, or nothing. -/
def Partial.ofByte? (byte : UInt8) : Option Partial :=
  let value := byte.toNat
  if 0xC2 ≤ byte && byte ≤ 0xDF then some ⟨value % 32, 0, 0x80, 0xBF⟩
  else if byte == 0xE0 then some ⟨value % 16, 1, 0xA0, 0xBF⟩
  else if byte == 0xED then some ⟨value % 16, 1, 0x80, 0x9F⟩
  else if 0xE1 ≤ byte && byte ≤ 0xEF then some ⟨value % 16, 1, 0x80, 0xBF⟩
  else if byte == 0xF0 then some ⟨value % 8, 2, 0x90, 0xBF⟩
  else if 0xF1 ≤ byte && byte ≤ 0xF3 then some ⟨value % 8, 2, 0x80, 0xBF⟩
  else if byte == 0xF4 then some ⟨value % 8, 2, 0x80, 0x8F⟩
  else none

/-- Reads a byte that no character is open before. -/
def readByte (byte : UInt8) : List Char × Option Partial :=
  if byte < 0x80 then ([Char.ofNat byte.toNat], none)
  else
    match Partial.ofByte? byte with
    | some started => ([], some started)
    | none => ([replacement], none)

/-- Reads bytes, after the start of a character or outside any. -/
def charsFrom : Option Partial → List UInt8 → List Char
  | none, [] => []
  | some _, [] => [replacement]
  | none, byte :: rest =>
    let (chars, started) := readByte byte
    chars ++ charsFrom started rest
  | some started, byte :: rest =>
    if started.low ≤ byte && byte ≤ started.high then
      let value := started.value * 64 + byte.toNat % 64
      match started.missing with
      | 0 => Char.ofNat value :: charsFrom none rest
      | missing + 1 => charsFrom (some ⟨value, missing, 0x80, 0xBF⟩) rest
    else
      let (chars, next) := readByte byte
      replacement :: chars ++ charsFrom next rest

/-- The text that bytes stand for. -/
def ofBytes (bytes : ByteArray) : String :=
  match String.fromUTF8? bytes with
  | some text => text
  | none => String.ofList (charsFrom none bytes.toList)

/-- A place at which bytes are not valid UTF-8. -/
structure EncodingFault where
  /-- The number of valid bytes before the place. -/
  offset : Nat
  /-- The number of bytes that were taken for a character; none, if the bytes end inside one. -/
  length : Option Nat
  deriving DecidableEq

/-- The wording of a fault. -/
def EncodingFault.message (fault : EncodingFault) : String :=
  match fault.length with
  | some n => "invalid utf-8 sequence of " ++ toString n ++ " bytes from index " ++ toString fault.offset
  | none => "incomplete utf-8 byte sequence from index " ++ toString fault.offset

/-- The first fault of bytes: `offset` bytes have been read, and `held` more that start a character. -/
def faultFrom (offset held : Nat) : Option Partial → List UInt8 → Option EncodingFault
  | none, [] => none
  | some _, [] => some ⟨offset, none⟩
  | none, byte :: rest =>
    if byte < 0x80 then faultFrom (offset + 1) 0 none rest
    else
      match Partial.ofByte? byte with
      | some started => faultFrom offset 1 (some started) rest
      | none => some ⟨offset, some 1⟩
  | some started, byte :: rest =>
    if started.low ≤ byte && byte ≤ started.high then
      match started.missing with
      | 0 => faultFrom (offset + held + 1) 0 none rest
      | missing + 1 => faultFrom offset (held + 1) (some ⟨0, missing, 0x80, 0xBF⟩) rest
    else some ⟨offset, some held⟩

/-- The first place at which bytes are not valid UTF-8. -/
def firstFault? (bytes : ByteArray) : Option EncodingFault :=
  faultFrom 0 0 none bytes.toList

end GoldenBench.Text
