import GoldenBench.Json.Basic
import GoldenBench.Json.Number

/-!
# Reading JSON documents

A document is read from one line of text. What is wrong with a text that is none is told by the first fault met
and the number of bytes up to it, the byte looked at included.

* `Json.parse` reads a document.
* `Fault.message` words a fault.
-/

namespace GoldenBench.Json

/-- How deep a document may nest, less one: the level of the first value counts. -/
def depthLimit : Nat := 128

/-- Drops blanks: spaces, tabs, line feeds and carriage returns. -/
def Cursor.skipBlanks (cursor : Cursor) : Cursor :=
  let blanks := cursor.rest.takeWhile fun c => c == ' ' || c == '\n' || c == '\t' || c == '\r'
  ⟨cursor.rest.drop blanks.length, cursor.column + blanks.length⟩

/-- Reads the rest of a name whose first letter is known. -/
def readName (cursor : Cursor) : List Char → Except Error Cursor
  | [] => .ok cursor
  | expected :: more =>
    match cursor.rest with
    | [] => .error (cursor.here .eofValue)
    | c :: rest =>
      if c = expected then readName (cursor.past c rest) more else .error ⟨.expectedName, cursor.column + 1⟩

/-- The value of a hexadecimal digit. -/
def hexValue? (c : Char) : Option Nat :=
  if '0' ≤ c && c ≤ '9' then some (c.toNat - 48)
  else if 'a' ≤ c && c ≤ 'f' then some (c.toNat - 87)
  else if 'A' ≤ c && c ≤ 'F' then some (c.toNat - 55)
  else none

/-- The number of bytes of a text. -/
def byteCount (text : List Char) : Nat :=
  text.foldl (fun n c => n + c.utf8Size) 0

/-- Reads four hexadecimal digits. -/
def readHex (cursor : Cursor) : Except Error (Nat × Cursor) :=
  match cursor.rest.take 4 |>.mapM hexValue? with
  | some [a, b, c, d] => .ok (((a * 16 + b) * 16 + c) * 16 + d, ⟨cursor.rest.drop 4, cursor.column + 4⟩)
  | _ =>
    if byteCount cursor.rest < 4 then .error ⟨.eofText, cursor.column + byteCount cursor.rest⟩
    else .error ⟨.invalidEscape, cursor.column + 4⟩

/-- Reads one expected character of a pair of escapes. -/
def readPairMark (cursor : Cursor) (expected : Char) : Except Error Cursor :=
  match cursor.rest with
  | [] => .error (cursor.here .eofText)
  | c :: rest => if c = expected then .ok (cursor.past c rest) else .error ⟨.endOfPair, cursor.column + 1⟩

/-- Reads the digits of a `u` escape, and of the escape that must follow the first half of a pair. -/
def readUnicode (cursor : Cursor) : Except Error (Char × Cursor) := do
  let (first, cursor) ← readHex cursor
  if 0xDC00 ≤ first ∧ first ≤ 0xDFFF then throw (cursor.here .loneHalf)
  if first < 0xD800 ∨ 0xDBFF < first then return (Char.ofNat first, cursor)
  let cursor ← readPairMark cursor '\\'
  let cursor ← readPairMark cursor 'u'
  let (second, cursor) ← readHex cursor
  if second < 0xDC00 ∨ 0xDFFF < second then throw (cursor.here .loneHalf)
  return (Char.ofNat ((first - 0xD800) * 0x400 + (second - 0xDC00) + 0x10000), cursor)

/-- Reads what follows a backslash. -/
def readEscape (cursor : Cursor) : Except Error (Char × Cursor) :=
  match cursor.rest with
  | [] => .error (cursor.here .eofText)
  | c :: rest =>
    let next := cursor.past c rest
    match c with
    | '"' => .ok ('"', next)
    | '\\' => .ok ('\\', next)
    | '/' => .ok ('/', next)
    | 'b' => .ok ('\x08', next)
    | 'f' => .ok ('\x0c', next)
    | 'n' => .ok ('\n', next)
    | 'r' => .ok ('\r', next)
    | 't' => .ok ('\t', next)
    | 'u' => readUnicode next
    | _ => .error ⟨.invalidEscape, cursor.column + 1⟩

/-- Reads a text up to its closing quote; `held` is what was read, in reverse. Each step reads a character at
least, so `fuel` need not exceed the number of characters. -/
def readText (fuel : Nat) (held : List Char) (cursor : Cursor) : Except Error (List Char × Cursor) :=
  match fuel, cursor.rest with
  | _, [] => .error (cursor.here .eofText)
  | 0, _ => .error (cursor.here .eofText)
  | fuel + 1, c :: rest =>
    let next := cursor.past c rest
    match c with
    | '"' => .ok (held.reverse, next)
    | '\\' => do
      let (c, next) ← readEscape next
      readText fuel (c :: held) next
    | c => if c.toNat < 0x20 then .error (next.here .controlCharacter) else readText fuel (c :: held) next

/-- Reads a text after its opening quote. -/
def readQuoted (cursor : Cursor) : Except Error (String × Cursor) := do
  let (text, cursor) ← readText cursor.rest.length [] cursor
  return (String.ofList text, cursor)

/-- Reads the colon between a key and its value. -/
def readColon (cursor : Cursor) : Except Error Cursor :=
  let cursor := cursor.skipBlanks
  match cursor.rest with
  | [] => .error (cursor.here .eofObject)
  | c :: rest => if c = ':' then .ok (cursor.past c rest) else .error (cursor.ahead .expectedColon)

mutual

/-- Reads a value that may nest less than `depth` deep. -/
def readValue (fuel depth : Nat) (cursor : Cursor) : Except Error (Json × Cursor) :=
  let cursor := cursor.skipBlanks
  match fuel, cursor.rest with
  | _, [] => .error (cursor.here .eofValue)
  | 0, _ => .error (cursor.ahead .recursionLimit)
  | fuel + 1, c :: rest =>
    let next := cursor.past c rest
    match c with
    | 'n' => do return (.null, ← readName next "ull".toList)
    | 't' => do return (.bool true, ← readName next "rue".toList)
    | 'f' => do return (.bool false, ← readName next "alse".toList)
    | '"' => do
      let (text, next) ← readQuoted next
      return (.str text, next)
    | '[' =>
      if depth ≤ 1 then .error (cursor.ahead .recursionLimit)
      else do
        let (items, next) ← readItems fuel (depth - 1) true next
        return (.arr items, next)
    | '{' =>
      if depth ≤ 1 then .error (cursor.ahead .recursionLimit)
      else do
        let (fields, next) ← readFields fuel (depth - 1) true [] next
        return (.obj fields, next)
    | '-' => readNumber false next
    | c => if c.isDigit then readNumber true cursor else .error (cursor.ahead .expectedValue)

/-- Reads the values of a list up to its closing bracket. -/
def readItems (fuel depth : Nat) (first : Bool) (cursor : Cursor) : Except Error (List Json × Cursor) :=
  let cursor := cursor.skipBlanks
  match fuel, cursor.rest with
  | _, [] => .error (cursor.here .eofList)
  | 0, _ => .error (cursor.ahead .recursionLimit)
  | fuel + 1, c :: rest =>
    if c = ']' then .ok ([], cursor.past c rest)
    else if first then do
      let (item, cursor) ← readValue fuel depth cursor
      let (items, cursor) ← readItems fuel depth false cursor
      return (item :: items, cursor)
    else if c = ',' then
      let cursor := (cursor.past c rest).skipBlanks
      match cursor.rest with
      | [] => .error (cursor.here .eofValue)
      | c :: _ =>
        if c = ']' then .error (cursor.ahead .trailingComma)
        else do
          let (item, cursor) ← readValue fuel depth cursor
          let (items, cursor) ← readItems fuel depth false cursor
          return (item :: items, cursor)
    else .error (cursor.ahead .expectedListEnd)

/-- Reads the fields of an object up to its closing brace, after `fields`; the last value of a key counts. -/
def readFields (fuel depth : Nat) (first : Bool) (fields : Fields) (cursor : Cursor) :
    Except Error (Fields × Cursor) :=
  let cursor := cursor.skipBlanks
  match fuel, cursor.rest with
  | _, [] => .error (cursor.here .eofObject)
  | 0, _ => .error (cursor.ahead .recursionLimit)
  | fuel + 1, c :: rest =>
    if c = '}' then .ok (fields, cursor.past c rest)
    else if first then
      if c = '"' then do
        let (key, cursor) ← readQuoted (cursor.past c rest)
        let cursor ← readColon cursor
        let (value, cursor) ← readValue fuel depth cursor
        readFields fuel depth false (fields.insert key value) cursor
      else .error (cursor.ahead .keyNotText)
    else if c = ',' then
      let cursor := (cursor.past c rest).skipBlanks
      match cursor.rest with
      | [] => .error (cursor.here .eofValue)
      | c :: rest =>
        if c = '"' then do
          let (key, cursor) ← readQuoted (cursor.past c rest)
          let cursor ← readColon cursor
          let (value, cursor) ← readValue fuel depth cursor
          readFields fuel depth false (fields.insert key value) cursor
        else if c = '}' then .error (cursor.ahead .trailingComma)
        else .error (cursor.ahead .keyNotText)
    else .error (cursor.ahead .expectedObjectEnd)

end

/-- Reads a document that is the whole of a text. Every value and every separator takes a character, so the
fuel suffices. -/
def parse (text : List Char) : Except Error Json := do
  let (document, cursor) ← readValue (2 * text.length + 2) depthLimit ⟨text, 0⟩
  let cursor := cursor.skipBlanks
  if cursor.rest.isEmpty then return document else throw (cursor.ahead .trailingCharacters)

end GoldenBench.Json
