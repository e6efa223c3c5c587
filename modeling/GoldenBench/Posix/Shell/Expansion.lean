import GoldenBench.Posix.Shell.Script

/-!
# What words stand for

A word stands for any number of fields: the value of a parameter outside quotes is cut at blanks, and the
arguments of a script are fields of their own.

* `Bindings.fields` is what a word of a command stands for, `Bindings.value` what it stands for where it is not
  cut.
* `Bindings.fits` compares a text with a pattern.
-/

namespace GoldenBench.Posix

/-- What the pieces of words stand for. -/
structure Bindings where
  /-- The value of a parameter. -/
  valueOf : String → String
  /-- The arguments of the script. -/
  arguments : List String
  /-- The output of a script, without the ends of lines at its end. -/
  outputOf : String → String

namespace Bindings

/-- A part of what a word stands for. -/
inductive Part where
  /-- Text. -/
  | text (text : String)
  /-- The end of a field. -/
  | gap
  deriving DecidableEq

/-- A blank at which values are cut. -/
def isBlank (c : Char) : Bool := c == ' ' || c == '\t' || c == '\n'

/-- A value cut at blanks, with the field read so far, in reverse. -/
def cutFrom (held : List Char) : List Char → List Part
  | [] => if held.isEmpty then [] else [.text (String.ofList held.reverse)]
  | c :: rest =>
    if isBlank c then (if held.isEmpty then [] else [.text (String.ofList held.reverse)]) ++ .gap :: cutFrom [] rest
    else cutFrom (c :: held) rest

/-- A value as it stands, or cut at blanks. -/
def parts (quoted : Bool) (value : String) : List Part :=
  if quoted then [.text value] else cutFrom [] value.toList

/-- What a piece stands for. -/
def pieceParts (bindings : Bindings) : Piece → List Part
  | .text _ text => [.text text]
  | .outputOf quoted script => parts quoted (bindings.outputOf script)
  | .parameter quoted name =>
    if name = "@" || (name = "*" && !quoted) then
      (bindings.arguments.map (parts quoted)).intersperse [.gap] |>.flatten
    else parts quoted (bindings.valueOf name)

/-- The fields that parts make up, the field that is begun first. -/
def gather : List Part → Option String × List String
  | [] => (none, [])
  | .gap :: rest =>
    let (begun, fields) := gather rest
    (none, begun.toList ++ fields)
  | .text text :: rest =>
    let (begun, fields) := gather rest
    (some (text ++ begun.getD ""), fields)

/-- The fields that a word stands for. A word of two double quotes and the arguments between them stands for no
field at all if there are no arguments. -/
def fields (bindings : Bindings) (word : Word) : List String :=
  let word := if word = [.text true "", .parameter true "@"] then word.drop 1 else word
  let (begun, fields) := gather (word.flatMap bindings.pieceParts)
  begun.toList ++ fields

/-- What a piece stands for where words are not cut. -/
def pieceValue (bindings : Bindings) : Piece → String
  | .text _ text => text
  | .outputOf _ script => bindings.outputOf script
  | .parameter _ name =>
    if name = "@" || name = "*" then " ".intercalate bindings.arguments else bindings.valueOf name

/-- What a word stands for where it is not cut. -/
def value (bindings : Bindings) (word : Word) : String :=
  String.join (word.map bindings.pieceValue)

/-- A mark of a pattern. -/
inductive Mark where
  /-- Any text. -/
  | anyText
  /-- Any character. -/
  | anyChar
  /-- This character. -/
  | char (c : Char)

/-- The marks of a word: a star and a question mark outside quotes stand for others. -/
def marks (bindings : Bindings) (word : Word) : List Mark :=
  word.flatMap fun piece =>
    let quoted := match piece with
      | .text quoted _ | .parameter quoted _ | .outputOf quoted _ => quoted
    (bindings.pieceValue piece).toList.map fun c =>
      if quoted then .char c else if c = '*' then .anyText else if c = '?' then .anyChar else .char c

/-- A text fits marks. -/
def fitsMarks : List Mark → List Char → Bool
  | [], text => text.isEmpty
  | .anyText :: marks, [] => fitsMarks marks []
  | .anyText :: marks, c :: rest => fitsMarks marks (c :: rest) || fitsMarks (.anyText :: marks) rest
  | .anyChar :: marks, _ :: rest => fitsMarks marks rest
  | .char wanted :: marks, c :: rest => c == wanted && fitsMarks marks rest
  | _ :: _, [] => false
termination_by marks text => (text.length, marks.length)

/-- A text fits a pattern. -/
def fits (bindings : Bindings) (pattern : Word) (text : String) : Bool :=
  fitsMarks (bindings.marks pattern) text.toList

end Bindings

end GoldenBench.Posix
