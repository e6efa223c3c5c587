import GoldenBench.Text.Blank

/-!
# Places in a YAML text

A text is read from a `Cursor`, which knows its line and its column. Line endings of every form are made single
line feeds first, and a text with characters that YAML does not allow is refused.

* `Yaml.admit?` prepares a text.
-/

namespace GoldenBench.Yaml

/-- A character that may stand in a text. -/
def isAllowed (c : Char) : Bool :=
  let n := c.toNat
  n == 0x09 || n == 0x0A || n == 0x0D || (0x20 ≤ n && n ≤ 0x7E) || n == 0x85 || (0xA0 ≤ n && n ≤ 0xD7FF) ||
    (0xE000 ≤ n && n ≤ 0xFFFD && n ≠ 0xFEFF) || 0x10000 ≤ n

/-- The text with a line feed for every carriage return, with or without a line feed after it, and for every
next-line character. -/
def unifyBreaks : List Char → List Char
  | [] => []
  | '\r' :: '\n' :: rest => '\n' :: unifyBreaks rest
  | c :: rest => (if c = '\r' ∨ c = '\u0085' then '\n' else c) :: unifyBreaks rest

/-- A text made ready to be read, unless it has characters that are not allowed. A byte order mark at the start is
left out. -/
def admit? (text : List Char) : Option (List Char) :=
  let text := match text with
    | '\ufeff' :: rest => rest
    | text => text
  if text.all isAllowed then some (unifyBreaks text) else none

/-- A character that ends a line. -/
def isBreak (c : Char) : Bool :=
  c == '\n' || c == '\u2028' || c == '\u2029'

/-- A space or a tab. -/
def isGap (c : Char) : Bool :=
  c == ' ' || c == '\t'

/-- A place in a text. -/
structure Cursor where
  /-- What has not been read. -/
  rest : List Char
  /-- The number of lines before this one. -/
  line : Nat
  /-- The number of characters before this place on its line. -/
  column : Nat
  /-- The number of characters before this place. -/
  offset : Nat

namespace Cursor

/-- The start of a text. -/
def start (text : List Char) : Cursor := ⟨text, 0, 0, 0⟩

/-- The cursor behind one character of a line. -/
def past (cursor : Cursor) (rest : List Char) : Cursor :=
  ⟨rest, cursor.line, cursor.column + 1, cursor.offset + 1⟩

/-- The cursor behind a line ending. -/
def below (cursor : Cursor) (rest : List Char) : Cursor :=
  ⟨rest, cursor.line + 1, 0, cursor.offset + 1⟩

/-- The cursor behind a number of characters of a line. -/
def skip (cursor : Cursor) (n : Nat) : Cursor :=
  ⟨cursor.rest.drop n, cursor.line, cursor.column + n, cursor.offset + n⟩

/-- The next character. -/
def peek (cursor : Cursor) : Option Char := cursor.rest.head?

/-- The next character is this one. -/
def sees (cursor : Cursor) (c : Char) : Bool := cursor.peek == some c

/-- At a distance stands a space, a tab, the end of a line or of the text. -/
def separatedAt (cursor : Cursor) (n : Nat) : Bool :=
  (cursor.rest[n]?).all fun c => isGap c || isBreak c

/-- The longest row of characters of a kind and the cursor behind it. No line ending may be of the kind. -/
def span (cursor : Cursor) (kind : Char → Bool) : List Char × Cursor :=
  let row := cursor.rest.takeWhile kind
  (row, cursor.skip row.length)

/-- The cursor behind spaces and tabs. -/
def skipGaps (cursor : Cursor) : Cursor := (cursor.span isGap).2

/-- The cursor at the end of the line. -/
def skipLine (cursor : Cursor) : Cursor := (cursor.span (!isBreak ·)).2

/-- The line ends here, after a comment at most; the cursor behind its ending. -/
def endLine? (cursor : Cursor) : Option Cursor :=
  let cursor := cursor.skipGaps
  let cursor := if cursor.sees '#' then cursor.skipLine else cursor
  match cursor.rest with
  | [] => some cursor
  | c :: rest => if isBreak c then some (cursor.below rest) else none

/-- The mark of a new document (three dashes) or of the end of one (three dots) stands here. -/
def seesMark (cursor : Cursor) (c : Char) : Bool :=
  cursor.column == 0 && [c, c, c].isPrefixOf cursor.rest && cursor.separatedAt 3

/-- A mark of either kind stands here. -/
def seesAnyMark (cursor : Cursor) : Bool :=
  cursor.seesMark '-' || cursor.seesMark '.'

end Cursor

end GoldenBench.Yaml
