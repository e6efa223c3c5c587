import GoldenBench.Number.Text
import GoldenBench.Yaml.Scalar

/-!
# Tokens of a YAML text

Indentation is turned into tokens that open and close block collections. What comes before a colon turns out to be
a key only when the colon is met, so the place of every possible key is remembered, one for each level of brackets,
and its token is put there afterwards.

* `Yaml.Token.ofText?` cuts a text into tokens.
-/

namespace GoldenBench.Yaml

/-- A token. -/
inductive Token where
  /-- A directive that gives the version of YAML. -/
  | version (major minor : Nat)
  /-- A directive that gives a short form of tags. -/
  | tagShort (handle lead : String)
  /-- The mark of a document's start. -/
  | documentStart
  /-- The mark of a document's end. -/
  | documentEnd
  /-- A block sequence opens. -/
  | blockSequence
  /-- A block mapping opens. -/
  | blockMapping
  /-- A block collection closes. -/
  | blockEnd
  /-- A flow sequence opens. -/
  | flowSequence
  /-- A flow sequence closes. -/
  | flowSequenceEnd
  /-- A flow mapping opens. -/
  | flowMapping
  /-- A flow mapping closes. -/
  | flowMappingEnd
  /-- A dash before an entry of a block sequence. -/
  | blockEntry
  /-- A comma between entries of a flow collection. -/
  | flowEntry
  /-- A key follows. -/
  | key
  /-- A value follows. -/
  | value
  /-- A node that is named stands here. -/
  | alias (name : String)
  /-- The node that follows is named. -/
  | anchor (name : String)
  /-- The tag of the node that follows: a handle and the rest. -/
  | tag (handle rest : String)
  /-- A scalar, and whether it is plain. -/
  | scalar (text : String) (plain : Bool)
  deriving DecidableEq

/-- A place at which a key may start. -/
structure KeyPlace where
  /-- Something other than a key may not start there. -/
  required : Bool
  /-- The number of tokens before it. -/
  index : Nat
  /-- Its line. -/
  line : Nat
  /-- Its column. -/
  column : Nat
  /-- The number of characters before it. -/
  offset : Nat

/-- A text that is being cut into tokens. -/
structure Layout where
  /-- The place that was reached. -/
  cursor : Cursor
  /-- The tokens so far. -/
  tokens : Array Token
  /-- The columns of the open block collections, the innermost first. -/
  columns : List Nat
  /-- The possible keys, one for each level of brackets and one outside, the innermost first. -/
  keys : List (Option KeyPlace)
  /-- A key may start here. -/
  keyAllowed : Bool

namespace Layout

/-- Nothing was read. -/
def start (text : List Char) : Layout :=
  ⟨.start text, #[], [], [none], true⟩

/-- The place is inside brackets. -/
def inFlow (layout : Layout) : Bool := 1 < layout.keys.length

/-- Adds a token. -/
def emit (layout : Layout) (token : Token) : Layout :=
  { layout with tokens := layout.tokens.push token }

/-- Puts a token before others. -/
def emitAt (layout : Layout) (index : Nat) (token : Token) : Layout :=
  { layout with tokens := layout.tokens.insertIdxIfInBounds index token }

/-- Sets the cursor. -/
def moveTo (layout : Layout) (cursor : Cursor) : Layout :=
  { layout with cursor := cursor }

/-- Says whether a key may start next. -/
def allowKey (layout : Layout) (allowed : Bool) : Layout :=
  { layout with keyAllowed := allowed }

/-- Replaces the possible key of the innermost level. -/
def setKey (layout : Layout) (place : Option KeyPlace) : Layout :=
  { layout with keys := place :: layout.keys.drop 1 }

/-- Closes the block collections that start beyond a column, or all of them. -/
def closeBlocks (layout : Layout) (column : Option Nat) : Layout :=
  if layout.inFlow then layout
  else
    let closed := layout.columns.takeWhile fun c => column.all (· < c)
    { layout with
      columns := layout.columns.drop closed.length
      tokens := layout.tokens ++ closed.map fun _ => Token.blockEnd }

/-- Opens a block collection at a column, if none is open there; its token comes before the one with an index, or
last. -/
def openBlock (layout : Layout) (column : Nat) (index : Option Nat) (token : Token) : Layout :=
  if layout.inFlow || layout.columns.head?.any (column ≤ ·) then layout
  else
    let layout := { layout with columns := column :: layout.columns }
    match index with
    | none => layout.emit token
    | some n => layout.emitAt n token

/-- Forgets the possible key of the innermost level; one that is required must not be forgotten. -/
def dropKey (layout : Layout) : Option Layout :=
  match layout.keys with
  | some place :: _ => if place.required then none else some (layout.setKey none)
  | _ => some layout

/-- Remembers this place as one where a key may start. -/
def noteKey (layout : Layout) : Option Layout :=
  if layout.keyAllowed then do
    let cursor := layout.cursor
    let required := !layout.inFlow && layout.columns.head? == some cursor.column
    let layout ← layout.dropKey
    return layout.setKey (some ⟨required, layout.tokens.size, cursor.line, cursor.column, cursor.offset⟩)
  else some layout

/-- The most characters of a key that has no mark of its own. -/
def keyLimit : Nat := 1024

/-- A possible key can no longer be one. -/
def isStale (cursor : Cursor) (place : KeyPlace) : Bool :=
  place.line < cursor.line || place.offset + keyLimit < cursor.offset

/-- Forgets the possible keys that can no longer be keys. -/
def dropStale (layout : Layout) : Option Layout :=
  if layout.keys.any fun key => key.any fun place => isStale layout.cursor place && place.required then none
  else some { layout with keys := layout.keys.map fun key => key.filter fun place => !isStale layout.cursor place }

/-- Goes on to the next character that belongs to a token. -/
def skipBlanks (layout : Layout) (fuel : Nat) : Layout :=
  match fuel with
  | 0 => layout
  | fuel + 1 =>
    let isSkipped (c : Char) : Bool := c == ' ' || (c == '\t' && (layout.inFlow || !layout.keyAllowed))
    let cursor := (layout.cursor.span isSkipped).2
    let cursor := if cursor.sees '#' then cursor.skipLine else cursor
    match cursor.rest with
    | c :: rest =>
      if isBreak c then
        let layout := layout.moveTo (cursor.below rest)
        (if layout.inFlow then layout else layout.allowKey true).skipBlanks fuel
      else layout.moveTo cursor
    | [] => layout.moveTo cursor

/-- Starts a token that stands outside all collections. -/
def atTop (layout : Layout) : Option Layout := do
  let layout ← (layout.closeBlocks none).dropKey
  return layout.allowKey false

/-- A letter of a name. -/
def isNameChar (c : Char) : Bool := c.isAlphanum || c == '_' || c == '-'

/-- The number that a row of digits stands for; a long row stands for none. -/
def number? (digits : List Char) : Option Nat :=
  if digits.isEmpty || 9 < digits.length then none else some (Number.ofDigits digits)

/-- A character of a tag. The marks of flow collections may stand only between angle brackets. -/
def isTagChar (bracketed : Bool) (c : Char) : Bool :=
  isNameChar c || ";/?:@&=+$.!~*'()%".toList.contains c || (bracketed && [',', '[', ']'].contains c)

/-- A tag with its percent escapes resolved. -/
def unescapeTag : List Char → Option (List UInt8)
  | [] => some []
  | '%' :: a :: b :: rest => do
    let n ← hexNumber? [a, b]
    return UInt8.ofNat n :: (← unescapeTag rest)
  | c :: rest => do
    if c = '%' then failure
    return (String.singleton c).toUTF8.toList ++ (← unescapeTag rest)

/-- Reads the characters of a tag. -/
def readTag (bracketed : Bool) (cursor : Cursor) : Option (String × Cursor) := do
  let (chars, cursor) := cursor.span (isTagChar bracketed)
  let text ← String.fromUTF8? ⟨(← unescapeTag chars).toArray⟩
  return (text, cursor)

/-- Reads the handle of a tag: an exclamation mark, and a name with another one if it has such. -/
def readHandle (cursor : Cursor) : String × Cursor :=
  let (name, after) := (cursor.skip 1).span isNameChar
  if after.sees '!' then (String.ofList ('!' :: name ++ ['!']), after.skip 1)
  else (String.ofList ('!' :: name), after)

/-- Reads a directive. -/
def directive (layout : Layout) : Option Layout := do
  let layout ← layout.atTop
  let (name, cursor) := (layout.cursor.skip 1).span isNameChar
  if name.isEmpty || !cursor.separatedAt 0 then failure
  let cursor := cursor.skipGaps
  match String.ofList name with
  | "YAML" =>
    let (major, cursor) := cursor.span Char.isDigit
    if !cursor.sees '.' then failure
    let (minor, cursor) := (cursor.skip 1).span Char.isDigit
    if !cursor.separatedAt 0 then failure
    let token := Token.version (← number? major) (← number? minor)
    return (layout.emit token).moveTo (← cursor.endLine?)
  | "TAG" =>
    if !cursor.sees '!' then failure
    let (handle, cursor) := readHandle cursor
    if (handle ≠ "!" && !(1 < handle.length && handle.endsWith "!")) || !cursor.peek.any isGap then failure
    let (lead, cursor) ← readTag true cursor.skipGaps
    if lead.isEmpty || !cursor.separatedAt 0 then failure
    return (layout.emit (.tagShort handle lead)).moveTo (← cursor.endLine?)
  | _ => failure

/-- Reads the mark of a document's start or end. -/
def documentMark (layout : Layout) (token : Token) : Option Layout := do
  let layout ← layout.atTop
  return (layout.emit token).moveTo (layout.cursor.skip 3)

/-- Reads a bracket that opens a flow collection. -/
def openFlow (layout : Layout) (token : Token) : Option Layout := do
  let layout ← layout.noteKey
  let layout := { layout with keys := none :: layout.keys, keyAllowed := true }
  return (layout.emit token).moveTo (layout.cursor.skip 1)

/-- Reads a bracket that closes a flow collection. -/
def closeFlow (layout : Layout) (token : Token) : Option Layout := do
  let layout ← layout.dropKey
  let layout := if layout.inFlow then { layout with keys := layout.keys.drop 1 } else layout
  return ((layout.allowKey false).emit token).moveTo (layout.cursor.skip 1)

/-- Reads a comma between entries. -/
def flowEntry (layout : Layout) : Option Layout := do
  let layout ← layout.dropKey
  return ((layout.allowKey true).emit .flowEntry).moveTo (layout.cursor.skip 1)

/-- Reads a dash before an entry. -/
def blockEntry (layout : Layout) : Option Layout := do
  if !layout.inFlow && !layout.keyAllowed then failure
  let layout ← (layout.openBlock layout.cursor.column none .blockSequence).dropKey
  return ((layout.allowKey true).emit .blockEntry).moveTo (layout.cursor.skip 1)

/-- Reads a question mark before a key. -/
def explicitKey (layout : Layout) : Option Layout := do
  if !layout.inFlow && !layout.keyAllowed then failure
  let layout ← (layout.openBlock layout.cursor.column none .blockMapping).dropKey
  return ((layout.allowKey (!layout.inFlow)).emit .key).moveTo (layout.cursor.skip 1)

/-- Reads a colon before a value. -/
def value (layout : Layout) : Option Layout :=
  let finish (layout : Layout) : Layout := (layout.emit .value).moveTo (layout.cursor.skip 1)
  match layout.keys with
  | some place :: _ =>
    let layout := (layout.emitAt place.index .key).openBlock place.column (some place.index) .blockMapping
    some (finish ((layout.setKey none).allowKey false))
  | _ =>
    if !layout.inFlow && !layout.keyAllowed then none
    else
      let layout := layout.openBlock layout.cursor.column none .blockMapping
      some (finish (layout.allowKey (!layout.inFlow)))

/-- Starts a token that may be a key. -/
def asKey (layout : Layout) : Option Layout := do
  let layout ← layout.noteKey
  return layout.allowKey false

/-- The characters that may follow a name. -/
def mayFollowName (cursor : Cursor) : Bool :=
  cursor.separatedAt 0 || cursor.peek.any fun c => "?:,]%@`".toList.contains c || c == '}'

/-- Reads the name of an anchor or an alias. -/
def named (layout : Layout) (token : String → Token) : Option Layout := do
  let layout ← layout.asKey
  let (name, cursor) := (layout.cursor.skip 1).span isNameChar
  if name.isEmpty || !mayFollowName cursor then failure
  return (layout.emit (token (String.ofList name))).moveTo cursor

/-- Reads a tag. -/
def tag (layout : Layout) : Option Layout := do
  let layout ← layout.asKey
  let (token, cursor) ←
    if layout.cursor.rest[1]? == some '<' then do
      let (uri, cursor) ← readTag true (layout.cursor.skip 2)
      if uri.isEmpty || !cursor.sees '>' then failure
      pure (Token.tag "" uri, cursor.skip 1)
    else do
      let (handle, cursor) := readHandle layout.cursor
      let (rest, cursor) ← readTag false cursor
      if 1 < handle.length && handle.endsWith "!" then
        if rest.isEmpty then failure
        pure (Token.tag handle rest, cursor)
      else
        let rest := String.ofList (handle.toList.drop 1) ++ rest
        pure (if rest.isEmpty then Token.tag "" "!" else Token.tag "!" rest, cursor)
  if !cursor.separatedAt 0 && !(layout.inFlow && cursor.sees ',') then failure
  return (layout.emit token).moveTo cursor

/-- Reads a block scalar. -/
def block (layout : Layout) (literal : Bool) : Option Layout := do
  let layout ← layout.dropKey
  let (text, cursor) ← readBlock literal layout.columns.head? layout.cursor
  return ((layout.allowKey true).emit (.scalar (String.ofList text) false)).moveTo cursor

/-- Reads a quoted scalar. -/
def quoted (layout : Layout) (single : Bool) : Option Layout := do
  let layout ← layout.asKey
  let (text, cursor) ← readQuoted single layout.cursor
  return (layout.emit (.scalar (String.ofList text) false)).moveTo cursor

/-- Reads a plain scalar. -/
def plain (layout : Layout) : Option Layout := do
  let layout ← layout.asKey
  let read ← readPlain layout.inFlow ((layout.columns.head?.map (· + 1)).getD 0) layout.cursor
  let layout := if read.folded then layout.allowKey true else layout
  return (layout.emit (.scalar (String.ofList read.chars) true)).moveTo read.cursor

/-- The characters that no plain scalar starts with. -/
def isIndicator (c : Char) : Bool :=
  "-?:,[]#&*!|>'\"%@`".toList.contains c || c == '{' || c == '}'

/-- A plain scalar may start here. -/
def startsPlain (layout : Layout) (c : Char) : Bool :=
  let cursor := layout.cursor
  (!isIndicator c && !isGap c && !isBreak c) ||
    (c == '-' && !(cursor.rest[1]?).any isGap) ||
    (!layout.inFlow && (c == '?' || c == ':') && !cursor.separatedAt 1)

/-- Reads the token that starts with a character. -/
def step (layout : Layout) (c : Char) : Option Layout :=
  let cursor := layout.cursor
  let marks := layout.inFlow || cursor.separatedAt 1
  if cursor.column = 0 ∧ c = '%' then layout.directive
  else if cursor.seesMark '-' then layout.documentMark .documentStart
  else if cursor.seesMark '.' then layout.documentMark .documentEnd
  else if c = '[' then layout.openFlow .flowSequence
  else if c = '{' then layout.openFlow .flowMapping
  else if c = ']' then layout.closeFlow .flowSequenceEnd
  else if c = '}' then layout.closeFlow .flowMappingEnd
  else if c = ',' then layout.flowEntry
  else if c = '-' ∧ cursor.separatedAt 1 then layout.blockEntry
  else if c = '?' ∧ marks then layout.explicitKey
  else if c = ':' ∧ marks then layout.value
  else if c = '*' then layout.named .alias
  else if c = '&' then layout.named .anchor
  else if c = '!' then layout.tag
  else if c = '|' ∧ !layout.inFlow then layout.block true
  else if c = '>' ∧ !layout.inFlow then layout.block false
  else if c = '\'' then layout.quoted true
  else if c = '"' then layout.quoted false
  else if layout.startsPlain c then layout.plain
  else none

/-- Reads tokens up to the end of the text. -/
def scan (fuel : Nat) (layout : Layout) : Option (List Token) :=
  match fuel with
  | 0 => none
  | fuel + 1 => do
    let layout ← (layout.skipBlanks (layout.cursor.rest.length + 1)).dropStale
    match layout.cursor.peek with
    | none => return (← layout.atTop).tokens.toList
    | some c => ((layout.closeBlocks (some layout.cursor.column)).step c).bind (scan fuel)

end Layout

/-- The tokens of a text. -/
def Token.ofText? (text : String) : Option (List Token) := do
  let chars ← admit? text.toList
  Layout.scan (chars.length + 1) (.start chars)

end GoldenBench.Yaml
