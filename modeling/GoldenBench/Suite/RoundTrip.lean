import GoldenBench.Comparison
import GoldenBench.Environment
import GoldenBench.Outcome
import GoldenBench.Subject

/-!
# The round trip

A text is converted to binary and back, names kept in both directions, and must come back unchanged.

* `RoundTrip.run` is the test for any text, `RoundTrip.runSuite` the test of the built-in one if the filter
  accepts its name.
-/

namespace GoldenBench.RoundTrip

/-- The name of the suite. -/
def suite : String := "roundtrip"

/-- The name of the test. -/
def name : String := "text-binary-text"

/-- The text that is sent through the converter. -/
def builtIn : String :=
  "(module (type (func (param i32 i32) (result i32))) (func $add (type 0) (param i32 i32) (result i32) " ++
    "get_local 0 get_local 1 i32.add) (memory 1) (export \"add\" (func $add)))"

/-- Converts a text to binary and back. -/
def convert (converter : Converter) (text : String) : Run (Except Failure String) := do
  Run.tell (.converting .toBinary true)
  match ← converter.toBinary true text with
  | .error failure => return .error failure
  | .ok binary =>
    Run.tell (.roundTripBinary binary.size)
    Run.tell (.converting .toText true)
    converter.toText true binary

/-- Sends a text through a converter and back. -/
def run (converter : Converter) (text : String) (color : Bool) : Run Outcome := do
  match ← convert converter text with
  | .error failure => return .failureWith "should convert without throwing" failure.text
  | .ok back =>
    if back = text then return .passed
    return .failureWith "text did not survive the round trip" ((← Run.compareTexts text back).render color)

/-- Runs the test if the filter accepts its name. -/
def runSuite (subject : Subject) (options : RunOptions) : Run (List Finding) := do
  if !options.filter.accepts name then return []
  Run.tell (.roundTripStarted subject.name)
  return [⟨name, ← run subject.converter builtIn options.color, []⟩]

end GoldenBench.RoundTrip
