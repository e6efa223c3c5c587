/-!
# Colours

* `Ansi.paint` puts a text between the sequence that turns a colour on and the one that resets it. Without
  colour, and for the empty text, nothing is added.
-/

namespace GoldenBench.Ansi

/-- The colours of reports. -/
inductive Color where
  /-- Failures and removals. -/
  | red
  /-- Successes and additions. -/
  | green
  /-- What was skipped, and warnings. -/
  | yellow
  /-- What is worth knowing. -/
  | cyan
  deriving DecidableEq

/-- The number that selects a colour. -/
def Color.code : Color → Nat
  | .red => 31
  | .green => 32
  | .yellow => 33
  | .cyan => 36

/-- The character that begins every sequence. -/
def escape : Char := '\x1b'

/-- The sequence that turns a colour on. -/
def turnOn (color : Color) : List Char :=
  escape :: '[' :: Nat.toDigits 10 color.code ++ ['m']

/-- The sequence that turns colours off. -/
def reset : List Char := [escape, '[', '0', 'm']

/-- A text in a colour. -/
def paintChars (enabled : Bool) (color : Color) (text : List Char) : List Char :=
  if enabled && !text.isEmpty then turnOn color ++ text ++ reset else text

/-- A text in a colour. -/
def paint (enabled : Bool) (color : Color) (text : String) : String :=
  String.ofList (paintChars enabled color text.toList)

end GoldenBench.Ansi
