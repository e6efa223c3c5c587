import GoldenBench.Glob.Basic

/-!
# Reading glob patterns

A star stands for a run of bytes, a question mark for one byte, brackets for a set, braces for alternatives with
commas between them, and a backslash takes the next character as it is. Two stars that fill a whole component
stand for directories: at the start, in the middle or at the end.

* `Glob.parse` reads a pattern, or says what is wrong with it; the first fault from the left counts.
-/

namespace GoldenBench.Glob

/-- What can be wrong with a pattern. -/
inductive Fault where
  /-- A set is not closed. -/
  | unclosedSet
  /-- A range ends before it starts. -/
  | invalidRange (low high : Char)
  /-- Alternatives are closed that were not opened. -/
  | unopenedGroup
  /-- Alternatives are not closed. -/
  | unclosedGroup
  /-- A backslash stands at the end. -/
  | danglingEscape
  deriving DecidableEq

/-- The wording of a fault. -/
def Fault.message : Fault → String
  | .unclosedSet => "unclosed character class; missing ']'"
  | .invalidRange low high => "invalid range; '" ++ low.toString ++ "' > '" ++ high.toString ++ "'"
  | .unopenedGroup => "unopened alternate group; missing '\x7b' (maybe escape '\x7d' with '[\x7d]'?)"
  | .unclosedGroup => "unclosed alternate group; missing '\x7d' (maybe escape '\x7b' with '[\x7b]'?)"
  | .danglingEscape => "dangling '\\'"

/-- A set that is being read. -/
structure SetDraft where
  /-- The set is negated. -/
  negated : Bool
  /-- The ranges read so far, the last first. -/
  ranges : List (Char × Char)
  /-- A dash was read that may go on with the last range. -/
  inRange : Bool

/-- The ranges of bytes that a range of characters stands for: the bytes of both ends by themselves, with one
range from the last byte of the first character to the first byte of the second. -/
def byteRanges : Char × Char → List (UInt8 × UInt8)
  | (low, high) =>
    if low = high then (bytesOf low).map fun byte => (byte, byte)
    else
      match (bytesOf low).reverse, bytesOf high with
      | last :: before, first :: after =>
        before.reverse.map (fun byte => (byte, byte)) ++ [(last, first)] ++ after.map fun byte => (byte, byte)
      | _, _ => []

namespace SetDraft

/-- Adds a character: it ends the range that is open, or stands for itself. -/
def add (draft : SetDraft) (c : Char) : Except Fault SetDraft :=
  match draft.inRange, draft.ranges with
  | true, (low, _) :: rest =>
    if c < low then .error (.invalidRange low c) else .ok ⟨draft.negated, (low, c) :: rest, false⟩
  | _, ranges => .ok ⟨draft.negated, (c, c) :: ranges, false⟩

/-- The set that was read. A dash at the end stands for itself. -/
def finish (draft : SetDraft) : Item :=
  let ranges := if draft.inRange then ('-', '-') :: draft.ranges else draft.ranges
  .oneOf ⟨draft.negated, ranges.reverse.flatMap byteRanges⟩

end SetDraft

/-- A row of items that is being read, with the finished rows of its group. -/
structure Row where
  /-- The items read so far, the last first. -/
  items : List Item
  /-- The finished rows of the group, the last first. -/
  finished : List (List Item)

/-- A pattern that is being read: the row at hand and the rows that hold the open groups, the innermost first. -/
structure Draft where
  /-- The row at hand. -/
  row : Row
  /-- The rows around it. -/
  outer : List Row

namespace Draft

/-- Nothing was read. -/
def start : Draft := ⟨⟨[], []⟩, []⟩

/-- The row at hand belongs to a group. -/
def inGroup (draft : Draft) : Bool :=
  !draft.outer.isEmpty

/-- Adds items at the end. -/
def push (draft : Draft) (items : List Item) : Draft :=
  { draft with row := { draft.row with items := items.reverse ++ draft.row.items } }

/-- Opens a group. -/
def openGroup (draft : Draft) : Draft :=
  ⟨⟨[], []⟩, draft.row :: draft.outer⟩

/-- Starts the next row of the group. -/
def nextRow (draft : Draft) : Draft :=
  { draft with row := ⟨[], draft.row.items.reverse :: draft.row.finished⟩ }

/-- Closes the innermost group. -/
def closeGroup (draft : Draft) : Except Fault Draft :=
  match draft.outer with
  | [] => .error .unopenedGroup
  | row :: outer =>
    let group := Item.group (draft.row.items.reverse :: draft.row.finished).reverse
    .ok ⟨{ row with items := group :: row.items }, outer⟩

/-- Two stars that fill a component replace the slash before them, unless directories stand there already. -/
def directories (draft : Draft) (item : Item) : Draft :=
  match draft.row.items with
  | .leading :: _ => draft
  | .trailing :: _ => draft
  | _ :: rest => { draft with row := { draft.row with items := item :: rest } }
  | [] => draft.push [item]

/-- The pattern that was read. -/
def finish (draft : Draft) : Except Fault Glob :=
  if draft.inGroup then .error .unclosedGroup else .ok ⟨draft.row.items.reverse⟩

end Draft

/-- What two stars stand for. -/
inductive Stars where
  /-- Directories at the start; a slash after the stars belongs to them. -/
  | leading
  /-- Directories in the middle; the slash after the stars belongs to them. -/
  | inner
  /-- Everything below a directory. -/
  | trailing
  /-- Two runs of bytes. -/
  | runs
  deriving DecidableEq

/-- What two stars stand for, by the character before them and the one after. -/
def Draft.stars (draft : Draft) (before after : Option Char) : Stars :=
  if draft.row.items.isEmpty then
    if after = none ∨ after = some '/' then .leading else .runs
  else if before ≠ some '/' ∧ !(draft.inGroup ∧ (before = some ',' ∨ before = some '\x7b')) then .runs
  else
    match after with
    | none => .trailing
    | some '/' => .inner
    | some c => if draft.inGroup ∧ (c = ',' ∨ c = '\x7d') then .trailing else .runs

/-- Adds what two stars stand for. -/
def Draft.addStars (draft : Draft) : Stars → Draft
  | .leading => draft.push [.leading]
  | .inner => draft.directories .inner
  | .trailing => draft.directories .trailing
  | .runs => draft.push [.run, .run]

/-- Where the reading stands. -/
inductive Mode where
  /-- Between items; the character before, if there is one. -/
  | plain (before : Option Char)
  /-- After a backslash. -/
  | escaped
  /-- Right after an opening bracket. -/
  | opened
  /-- At the first character of a set. -/
  | first (negated : Bool)
  /-- Inside a set. -/
  | inside (set : SetDraft)

/-- Reads on from a place. -/
def scan (mode : Mode) (draft : Draft) (text : List Char) : Except Fault Glob :=
  match mode, text with
  | .plain _, [] => draft.finish
  | .escaped, [] => .error .danglingEscape
  | _, [] => .error .unclosedSet
  | .escaped, c :: rest => scan (.plain (some c)) (draft.push [.char c]) rest
  | .opened, c :: rest =>
    if c = '!' ∨ c = '^' then scan (.first true) draft rest
    else scan (.inside ⟨false, [(c, c)], false⟩) draft rest
  | .first negated, c :: rest => scan (.inside ⟨negated, [(c, c)], false⟩) draft rest
  | .inside set, c :: rest =>
    if c = ']' then scan (.plain (some c)) (draft.push [set.finish]) rest
    else if c = '-' ∧ !set.inRange then scan (.inside { set with inRange := true }) draft rest
    else
      match set.add c with
      | .ok set => scan (.inside set) draft rest
      | .error fault => .error fault
  | .plain before, '*' :: '*' :: '/' :: rest =>
    let stars := draft.stars before (some '/')
    if stars = .runs then scan (.plain (some '*')) (draft.addStars stars) ('/' :: rest)
    else scan (.plain (some '/')) (draft.addStars stars) rest
  | .plain before, '*' :: '*' :: rest =>
    scan (.plain (some '*')) (draft.addStars (draft.stars before rest.head?)) rest
  | .plain _, c :: rest =>
    let next := Mode.plain (some c)
    match c with
    | '*' => scan next (draft.push [.run]) rest
    | '?' => scan next (draft.push [.any]) rest
    | '\\' => scan .escaped draft rest
    | '[' => scan .opened draft rest
    | '\x7b' => scan next draft.openGroup rest
    | '\x7d' =>
      match draft.closeGroup with
      | .ok draft => scan next draft rest
      | .error fault => .error fault
    | ',' => scan next (if draft.inGroup then draft.nextRow else draft.push [.char ',']) rest
    | c => scan next (draft.push [.char c]) rest
termination_by text.length

/-- Reads a pattern. -/
def parse (pattern : String) : Except Fault Glob :=
  scan (.plain none) .start pattern.toList

end GoldenBench.Glob
