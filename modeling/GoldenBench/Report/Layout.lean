import GoldenBench.Ansi
import GoldenBench.Outcome
import GoldenBench.Text.Indent

/-!
# How a report is laid out

The first line of a report holds the name of the test and its status. The reason, the detail and the notes follow,
each ended by a line feed and indented; one line feed at the very end is left out.

* `Report.heading` is the first line. Below it, `Outcome.explanation` and every note are written from the start of a
  line, piece by piece.
* `Report.text` is the whole.
-/

namespace GoldenBench

/-- The status of an outcome, as it stands after the name of the test. -/
def Outcome.status (color : Bool) : Outcome → List Char
  | .passed => Ansi.paintChars color .green "passed".toList
  | .created path => Ansi.paintChars color .cyan "created".toList ++ ' ' :: path.text.toList
  | .failed .. => Ansi.paintChars color .red "FAILED".toList
  | .skipped _ => Ansi.paintChars color .yellow "SKIPPED".toList

/-- What an outcome has to say below its status, in the pieces in which it is written. -/
def Outcome.explanation : Outcome → List (List Char)
  | .passed => []
  | .created _ => []
  | .skipped reason => ["Reason: ".toList, reason.toList, ['\n']]
  | .failed reason none => ["Reason: ".toList, reason.toList, ['\n']]
  | .failed reason (some detail) => ["Reason: ".toList, reason.toList, ['\n'], detail.toList, ['\n']]

namespace Report

/-- The first line of a report. -/
def heading (report : Report) (color : Bool) : List Char :=
  report.name.toList ++ ' ' :: report.outcome.status color

/-- What follows the first line. Every note is indented on its own. -/
def below (report : Report) : List Char :=
  Text.indentEach true report.outcome.explanation ++
    report.notes.flatMap fun note => Text.indentEach true [note.toList, ['\n']]

/-- A report as it is shown. -/
def chars (report : Report) (color : Bool) : List Char :=
  Text.dropFinalNewline (report.heading color ++ '\n' :: report.below)

/-- A report as it is shown. -/
def text (report : Report) (color : Bool) : String :=
  String.ofList (report.chars color)

end Report

end GoldenBench
