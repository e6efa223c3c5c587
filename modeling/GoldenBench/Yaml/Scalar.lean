import GoldenBench.Yaml.Cursor
import GoldenBench.Json.Reader

/-!
# Scalars of a YAML text

A scalar is plain, quoted or a block. Inside plain and quoted ones a line ending counts as a space, and each empty
line as a line feed; a literal block keeps its line endings, a folded one joins lines that are not indented
further.

* `Yaml.readQuoted`, `Yaml.readPlain` and `Yaml.readBlock` read one scalar each. The answer is its characters and
  the cursor behind it; a text that is no such scalar has none.
-/

namespace GoldenBench.Yaml

/-- What stands between two words of a scalar. -/
structure Gap where
  /-- Spaces and tabs before any line ending, the last first. -/
  blanks : List Char
  /-- A line has ended. -/
  folded : Bool
  /-- The first line ending, unless it was escaped. -/
  first : Option Char
  /-- The line endings after the first, the last first. -/
  others : List Char

namespace Gap

/-- Nothing was read. -/
def none : Gap := ⟨[], false, Option.none, []⟩

/-- A line ended, and its ending does not count. -/
def escaped : Gap := ⟨[], true, Option.none, []⟩

/-- What the gap stands for. -/
def text (gap : Gap) : List Char :=
  if !gap.folded then gap.blanks.reverse
  else
    match gap.first with
    | some '\n' => if gap.others.isEmpty then [' '] else gap.others.reverse
    | some c => c :: gap.others.reverse
    | Option.none => gap.others.reverse

/-- Adds a line ending. -/
def addBreak (gap : Gap) (c : Char) : Gap :=
  if gap.folded then { gap with others := c :: gap.others } else ⟨[], true, some c, []⟩

/-- Adds a space or a tab; at the start of a line it does not count. -/
def addBlank (gap : Gap) (c : Char) : Gap :=
  if gap.folded then gap else { gap with blanks := c :: gap.blanks }

end Gap

/-- Reads on in a gap. A tab before column `indent` of a new line is refused. -/
def readGap (indent : Nat) (gap : Gap) (cursor : Cursor) : Option (Gap × Cursor) :=
  match _h : cursor.rest with
  | [] => some (gap, cursor)
  | c :: rest =>
    if isGap c then
      if c = '\t' ∧ gap.folded ∧ cursor.column < indent then Option.none
      else readGap indent (gap.addBlank c) (cursor.past rest)
    else if isBreak c then readGap indent (gap.addBreak c) (cursor.below rest)
    else some (gap, cursor)
termination_by cursor.rest.length
decreasing_by all_goals simp [Cursor.past, Cursor.below, *]

/-- What a letter stands for after a backslash. -/
def escapes : List (Char × Char) :=
  [('0', '\x00'), ('a', '\x07'), ('b', '\x08'), ('t', '\t'), ('\t', '\t'), ('n', '\n'), ('v', '\x0b'),
    ('f', '\x0c'), ('r', '\r'), ('e', '\x1b'), (' ', ' '), ('"', '"'), ('/', '/'), ('\\', '\\'),
    ('N', '\u0085'), ('_', '\u00a0'), ('L', '\u2028'), ('P', '\u2029')]

/-- The number of digits after a letter that stands for a code point. -/
def digitsAfter (c : Char) : Option Nat :=
  if c = 'x' then some 2 else if c = 'u' then some 4 else if c = 'U' then some 8 else Option.none

/-- The number that hexadecimal digits stand for. -/
def hexNumber? (digits : List Char) : Option Nat :=
  (digits.mapM Json.hexValue?).map fun values => values.foldl (fun n d => 16 * n + d) 0

/-- The character after a backslash and the number of characters that it takes. -/
def readEscape (text : List Char) : Option (Char × Nat) :=
  match text with
  | [] => Option.none
  | c :: rest =>
    match escapes.lookup c with
    | some result => some (result, 1)
    | Option.none => do
      let count ← digitsAfter c
      if rest.length < count then failure
      let n ← hexNumber? (rest.take count)
      if (0xD800 ≤ n ∧ n ≤ 0xDFFF) ∨ 0x10FFFF < n then failure
      return (Char.ofNat n, count + 1)

/-- Reads on in a quoted scalar. -/
def quotedFrom (single : Bool) (fuel : Nat) (read : List Char) (cursor : Cursor) :
    Option (List Char × Cursor) :=
  match fuel with
  | 0 => Option.none
  | fuel + 1 =>
    if cursor.seesAnyMark then Option.none
    else
      match cursor.rest with
      | [] => Option.none
      | c :: rest =>
        if isGap c || isBreak c then
          match readGap 0 .none cursor with
          | some (gap, cursor) => quotedFrom single fuel (gap.text.reverse ++ read) cursor
          | Option.none => Option.none
        else if single && c == '\'' then
          if rest.head? == some '\'' then quotedFrom single fuel ('\'' :: read) (cursor.skip 2)
          else some (read.reverse, cursor.past rest)
        else if !single && c == '"' then some (read.reverse, cursor.past rest)
        else if !single && c == '\\' then
          match rest with
          | e :: more =>
            if isBreak e then
              match readGap 0 .escaped ((cursor.past rest).below more) with
              | some (gap, cursor) => quotedFrom single fuel (gap.text.reverse ++ read) cursor
              | Option.none => Option.none
            else
              match readEscape rest with
              | some (result, count) => quotedFrom single fuel (result :: read) (cursor.skip (count + 1))
              | Option.none => Option.none
          | [] => Option.none
        else quotedFrom single fuel (c :: read) (cursor.past rest)

/-- Reads a quoted scalar from its opening quote on. -/
def readQuoted (single : Bool) (cursor : Cursor) : Option (List Char × Cursor) :=
  quotedFrom single (cursor.rest.length + 1) [] (cursor.skip 1)

/-- The characters that end a plain scalar inside brackets. -/
def isFlowMark (c : Char) : Bool :=
  c == ',' || c == '[' || c == ']' || c == '{' || c == '}'

/-- A plain scalar that was read. -/
structure Plain where
  /-- Its characters. -/
  chars : List Char
  /-- A line ended after its last word. -/
  folded : Bool
  /-- The cursor behind the scalar and the gap after it. -/
  cursor : Cursor

/-- A word of a plain scalar ends before this place. -/
def plainEnds (inFlow : Bool) (cursor : Cursor) : Bool :=
  match cursor.peek with
  | some c => isGap c || isBreak c || (c == ':' && cursor.separatedAt 1) || (inFlow && isFlowMark c)
  | Option.none => true

/-- A colon stands here that may neither belong to a plain scalar nor end it. -/
def plainBreaks (inFlow : Bool) (cursor : Cursor) : Bool :=
  inFlow && cursor.sees ':' && (cursor.rest[1]?).any fun c => isFlowMark c || c == '?'

/-- Reads the characters of a word, the last first. -/
def readWord (inFlow : Bool) (read : List Char) (cursor : Cursor) : Option (List Char × Cursor) :=
  match _h : cursor.rest with
  | [] => some (read, cursor)
  | c :: rest =>
    if isGap c || isBreak c then some (read, cursor)
    else if plainBreaks inFlow cursor then Option.none
    else if plainEnds inFlow cursor then some (read, cursor)
    else readWord inFlow (c :: read) (cursor.past rest)
termination_by cursor.rest.length
decreasing_by all_goals simp [Cursor.past, *]

/-- Reads on in a plain scalar, with the gap before this place. -/
def plainFrom (inFlow : Bool) (indent fuel : Nat) (read : List Char) (gap : Gap) (cursor : Cursor) : Option Plain :=
  let ended := some ⟨read.reverse, gap.folded, cursor⟩
  match fuel with
  | 0 => Option.none
  | fuel + 1 =>
    if cursor.seesAnyMark || cursor.sees '#' then ended
    else
      match readWord inFlow [] cursor with
      | Option.none => Option.none
      | some ([], _) => ended
      | some (word, cursor) =>
        let read := word ++ gap.text.reverse ++ read
        match readGap indent .none cursor with
        | Option.none => Option.none
        | some (gap, after) =>
          if after.offset = cursor.offset || (!inFlow && after.column < indent) then
            some ⟨read.reverse, gap.folded, after⟩
          else plainFrom inFlow indent fuel read gap after

/-- Reads a plain scalar. Outside brackets its further lines start at column `indent` or beyond. -/
def readPlain (inFlow : Bool) (indent : Nat) (cursor : Cursor) : Option Plain :=
  plainFrom inFlow indent (cursor.rest.length + 1) [] .none cursor

/-- What becomes of the line endings at the end of a block. -/
inductive Chomping where
  /-- One is kept. -/
  | clip
  /-- None is kept. -/
  | strip
  /-- All are kept. -/
  | keep
  deriving DecidableEq

/-- What a block's first line says: the chomping and how far the block is indented beyond its parent. -/
structure BlockHeader where
  /-- The chomping. -/
  chomping : Chomping
  /-- The indentation, if it is given. -/
  increment : Option Nat

/-- A sign of chomping. -/
def chomping? (c : Char) : Option Chomping :=
  if c = '-' then some .strip else if c = '+' then some .keep else Option.none

/-- A digit of an indentation. -/
def increment? (c : Char) : Option Nat :=
  if '1' ≤ c ∧ c ≤ '9' then some (c.toNat - '0'.toNat) else Option.none

/-- Reads what stands after the mark of a block: a chomping and an indentation in either order. -/
def readHeader (cursor : Cursor) : BlockHeader × Cursor :=
  match cursor.rest.head?.bind chomping?, cursor.rest.head?.bind increment? with
  | some chomping, _ =>
    match (cursor.rest[1]?).bind increment? with
    | some n => (⟨chomping, some n⟩, cursor.skip 2)
    | Option.none => (⟨chomping, Option.none⟩, cursor.skip 1)
  | _, some n =>
    match (cursor.rest[1]?).bind chomping? with
    | some chomping => (⟨chomping, some n⟩, cursor.skip 2)
    | Option.none => (⟨.clip, some n⟩, cursor.skip 1)
  | _, _ => (⟨.clip, Option.none⟩, cursor)

/-- What stands before a line of a block. -/
structure Margin where
  /-- The endings of empty lines, the last first. -/
  breaks : List Char
  /-- The greatest column that was seen. -/
  widest : Nat
  /-- The cursor behind the indentation. -/
  cursor : Cursor

/-- Reads indentation and empty lines. Where the indentation of the block is known no more than that is read of a
line; a tab may not stand inside it. -/
def readMargin (indent : Option Nat) (margin : Margin) : Option Margin :=
  let cursor := margin.cursor
  let widest := max margin.widest cursor.column
  let inside := indent.all (cursor.column < ·)
  match _h : margin.cursor.rest with
  | [] => some { margin with widest := widest }
  | c :: rest =>
    if c == ' ' && inside then readMargin indent ⟨margin.breaks, margin.widest, cursor.past rest⟩
    else if c == '\t' && inside then Option.none
    else if isBreak c then readMargin indent ⟨c :: margin.breaks, widest, cursor.below rest⟩
    else some { margin with widest := widest }
termination_by margin.cursor.rest.length
decreasing_by all_goals simp_all [Cursor.past, Cursor.below]

/-- A block that is being read. -/
structure Block where
  /-- The characters read so far, the last first. -/
  read : List Char
  /-- The ending of the last line. -/
  lineEnd : List Char
  /-- The endings of empty lines after it, the last first. -/
  breaks : List Char
  /-- The last line began with a space or a tab. -/
  wasIndented : Bool

/-- The lines of a block up to here, joined to the next one. -/
def Block.join (block : Block) (literal nextIndented : Bool) : List Char :=
  if !literal && block.lineEnd == ['\n'] && !block.wasIndented && !nextIndented then
    block.breaks ++ (if block.breaks.isEmpty then [' '] else []) ++ block.read
  else block.breaks ++ block.lineEnd ++ block.read

/-- The characters of a block that has ended. -/
def Block.finish (block : Block) : Chomping → List Char
  | .strip => block.read.reverse
  | .clip => (block.lineEnd ++ block.read).reverse
  | .keep => (block.breaks ++ block.lineEnd ++ block.read).reverse

/-- Reads the lines of a block at a column. -/
def blockLines (literal : Bool) (chomping : Chomping) (indent fuel : Nat) (block : Block) (cursor : Cursor) :
    Option (List Char × Cursor) :=
  match fuel with
  | 0 => Option.none
  | fuel + 1 =>
    if cursor.column ≠ indent || cursor.rest.isEmpty then some (block.finish chomping, cursor)
    else
      let indented := cursor.peek.any isGap
      let (line, after) := cursor.span (!isBreak ·)
      let read := line.reverse ++ block.join literal indented
      let (lineEnd, next) := match after.rest with
        | c :: rest => ([c], after.below rest)
        | [] => ([], after)
      match readMargin (some indent) ⟨[], 0, next⟩ with
      | some margin => blockLines literal chomping indent fuel ⟨read, lineEnd, margin.breaks, indented⟩ margin.cursor
      | Option.none => Option.none

/-- Reads a block from its mark on. `parent` is the column of what the block belongs to, if there is such. -/
def readBlock (literal : Bool) (parent : Option Nat) (cursor : Cursor) : Option (List Char × Cursor) := do
  let (header, cursor) := readHeader (cursor.skip 1)
  let cursor ← cursor.endLine?
  let given := header.increment.map (parent.getD 0 + ·)
  let margin ← readMargin given ⟨[], 0, cursor⟩
  let indent := given.getD (max margin.widest (max 1 ((parent.map (· + 1)).getD 0)))
  blockLines literal header.chomping indent (cursor.rest.length + 2) ⟨[], [], margin.breaks, false⟩ margin.cursor

end GoldenBench.Yaml
