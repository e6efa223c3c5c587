/-!
# Lines of a text

A line ends at a line feed; one carriage return just before the line feed belongs to the ending. What stands
after the last line feed is a line too, unless it is empty, and a carriage return at its end stays.

* `Text.lines` cuts a text into its lines without their endings.
* `Text.firstLine` is the first of them, empty for the empty text.
-/

namespace GoldenBench.Text

/-- A line read so far, held in reverse, as it is once its line feed is reached. -/
def closeLine : List Char → List Char
  | '\r' :: held => held.reverse
  | held => held.reverse

/-- The lines of a text whose current line was read up to `held`, in reverse. -/
def linesFrom (held : List Char) : List Char → List (List Char)
  | [] => if held.isEmpty then [] else [held.reverse]
  | c :: rest => if c = '\n' then closeLine held :: linesFrom [] rest else linesFrom (c :: held) rest

/-- The lines of a text, without their endings. -/
def lines (text : List Char) : List (List Char) :=
  linesFrom [] text

/-- The first line of a text; the empty text has an empty first line. -/
def firstLine (text : List Char) : List Char :=
  (lines text).headD []

/-- Texts joined by a line feed. -/
def joinLines (texts : List String) : String :=
  "\n".intercalate texts

/-- A text without one line feed at its end, if it has one. -/
def dropFinalNewline (text : List Char) : List Char :=
  match text.reverse with
  | '\n' :: rest => rest.reverse
  | _ => text

theorem linesFrom_append_newline (held line rest : List Char) (h : '\n' ∉ line) :
    linesFrom held (line ++ '\n' :: rest) = closeLine (line.reverse ++ held) :: lines rest := by
  induction line generalizing held with
  | nil => simp [linesFrom, lines]
  | cons c line ih =>
    simp only [List.mem_cons, not_or] at h
    simp [linesFrom, Ne.symm h.1, ih _ h.2]

/-- A line and its line feed come off the front of a text. -/
theorem lines_append_newline (line rest : List Char) (h : '\n' ∉ line) :
    lines (line ++ '\n' :: rest) = closeLine line.reverse :: lines rest := by
  simpa [lines] using linesFrom_append_newline [] line rest h

theorem dropFinalNewline_append (text : List Char) : dropFinalNewline (text ++ ['\n']) = text := by
  simp [dropFinalNewline]

end GoldenBench.Text
