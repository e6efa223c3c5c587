import GoldenBench.Ansi
import GoldenBench.Text.Blank
import GoldenBench.Text.Lines
import GoldenBench.Text.Word

/-!
# Diagnostics of a compiler

A diagnostic has a severity and a message of one line or more.

* `Diagnostic.format` shows diagnostics, each with its severity in front and its further lines indented.
* `Diagnostic.parse` finds diagnostics in what a compiler wrote: a line that begins with the name of a severity, as
  a word, starts one, and every other line that is not blank goes on with the one before it. Lines before the
  first diagnostic are set apart.
-/

namespace GoldenBench

/-- How serious a diagnostic is. -/
inductive Severity where
  /-- For the reader's information. -/
  | info
  /-- Something to look at. -/
  | warning
  /-- Something is wrong. -/
  | error
  deriving DecidableEq

namespace Severity

/-- The name of a severity. -/
def label : Severity → String
  | .info => "INFO"
  | .warning => "WARNING"
  | .error => "ERROR"

/-- The colour of a severity. -/
def color : Severity → Ansi.Color
  | .info => .cyan
  | .warning => .yellow
  | .error => .red

/-- Every severity. -/
def all : List Severity := [.error, .warning, .info]

end Severity

/-- What a compiler has to say about a source. -/
structure Diagnostic where
  /-- How serious it is. -/
  severity : Severity
  /-- What it says. -/
  message : String
  deriving DecidableEq

namespace Diagnostic

/-- The lines that show a diagnostic. -/
def formatLines (color : Bool) (diagnostic : Diagnostic) : List (List Char) :=
  let label := Ansi.paintChars color diagnostic.severity.color diagnostic.severity.label.toList
  let lines := Text.lines diagnostic.message.toList
  (label ++ ": ".toList ++ lines.headD []) :: (lines.drop 1).map (' ' :: ' ' :: ·)

/-- Lines, each with its line feed. -/
def unlines (lines : List (List Char)) : List Char :=
  lines.flatMap (· ++ ['\n'])

/-- Diagnostics as they are shown. -/
def formatChars (color : Bool) (diagnostics : List Diagnostic) : List Char :=
  Text.dropFinalNewline (unlines (diagnostics.flatMap (formatLines color)))

/-- Diagnostics as they are shown. -/
def format (color : Bool) (diagnostics : List Diagnostic) : String :=
  String.ofList (formatChars color diagnostics)

/-- The severity and the message on a line that starts a diagnostic: the severity's name as a word, an optional
colon, white space, the message. -/
def header? (line : List Char) : Option (Severity × List Char) :=
  Severity.all.findSome? fun severity =>
    let name := severity.label.toList
    if name.isPrefixOf line && Text.endsWord (line.drop name.length) then
      let rest := match line.drop name.length with
        | ':' :: rest => rest
        | rest => rest
      some (severity, Text.trimStart rest)
    else none

/-- A diagnostic read so far, its lines in reverse. -/
structure Pending where
  /-- How serious it is. -/
  severity : Severity
  /-- Its lines, the last first. -/
  lines : List (List Char)

/-- The diagnostic that was read. -/
def Pending.finish (pending : Pending) : Diagnostic :=
  ⟨pending.severity, Text.joinLines (pending.lines.reverse.map String.ofList)⟩

/-- Diagnostics found so far, and lines outside any. -/
structure Found where
  /-- The diagnostics, the last first. -/
  pending : List Pending
  /-- Lines before the first diagnostic, the last first. -/
  stray : List (List Char)

/-- Takes one more line. -/
def Found.add (found : Found) (line : List Char) : Found :=
  match header? line with
  | some (severity, message) => { found with pending := ⟨severity, [message]⟩ :: found.pending }
  | none =>
    if Text.isAllBlank line then found
    else
      match found.pending with
      | last :: rest => { found with pending := ⟨last.severity, line :: last.lines⟩ :: rest }
      | [] => { found with stray := line :: found.stray }

/-- What the lines of a text hold. -/
def scan (text : List Char) : Found :=
  (Text.lines text).foldl Found.add ⟨[], []⟩

/-- The diagnostics in what a compiler wrote. -/
def parse (text : String) : List Diagnostic :=
  (scan text.toList).pending.reverse.map Pending.finish

/-- The lines of what a compiler wrote that stand before the first diagnostic. -/
def strayLines (text : String) : List String :=
  (scan text.toList).stray.reverse.map String.ofList

end Diagnostic

end GoldenBench
