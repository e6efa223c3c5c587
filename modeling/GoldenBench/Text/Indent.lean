/-!
# Indentation

An indented text has two spaces before the first character of every line that is not empty. Empty lines stay
empty. Only a line feed ends a line.

* `Text.indent` indents a text.
* `Text.indentEach` indents texts that are written one after another, and `indentEach_eq` says that it does not
  matter how a text is cut up for that.
-/

namespace GoldenBench.Text

/-- The indentation of a text of which a line is about to start (`atStart`) or has started. -/
def indentFrom (atStart : Bool) : List Char → List Char
  | [] => []
  | c :: rest =>
    if c = '\n' then '\n' :: indentFrom true rest
    else if atStart then ' ' :: ' ' :: c :: indentFrom false rest
    else c :: indentFrom false rest

/-- Two spaces before every line that is not empty. -/
def indent (text : List Char) : List Char :=
  indentFrom true text

/-- Whether a line is about to start after a text, where one was about to start (`atStart`) or had started before it. -/
def startsLine (atStart : Bool) (text : List Char) : Bool :=
  match text.getLast? with
  | none => atStart
  | some c => c == '\n'

/-- Texts written one after another, each indented from where the one before it ended. -/
def indentEach (atStart : Bool) : List (List Char) → List Char
  | [] => []
  | text :: rest => indentFrom atStart text ++ indentEach (startsLine atStart text) rest

theorem startsLine_cons (atStart : Bool) (c : Char) (text : List Char) :
    startsLine atStart (c :: text) = startsLine (c == '\n') text := by
  cases text with
  | nil => rfl
  | cons d text => simp [startsLine, List.getLast?_cons]

/-- What follows a text is indented from where the text ended. -/
theorem indentFrom_append (atStart : Bool) (text rest : List Char) :
    indentFrom atStart (text ++ rest) = indentFrom atStart text ++ indentFrom (startsLine atStart text) rest := by
  induction text generalizing atStart with
  | nil => rfl
  | cons c text ih =>
    rw [startsLine_cons]
    by_cases h : c = '\n'
    · subst h
      simp [indentFrom, ih]
    · rw [beq_false_of_ne h]
      cases atStart <;> simp [indentFrom, h, ih]

/-- It does not matter how a text is cut up for being written. -/
theorem indentEach_eq (atStart : Bool) (texts : List (List Char)) :
    indentEach atStart texts = indentFrom atStart texts.flatten := by
  induction texts generalizing atStart with
  | nil => rfl
  | cons text texts ih => rw [indentEach, ih, List.flatten_cons, indentFrom_append]

end GoldenBench.Text
