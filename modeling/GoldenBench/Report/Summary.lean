import GoldenBench.Outcome

/-!
# The summary of a subject

* `Summary.line` counts outcomes on one line, with the time that was taken.
* `Elapsed.text` writes a time: as a duration with a sign for its kind, or in plain seconds beyond what that form
  can hold.
-/

namespace GoldenBench

/-- A span of time. -/
structure Elapsed where
  /-- Whole seconds. -/
  seconds : Nat
  /-- Billionths of a second, less than one second. -/
  nanoseconds : Nat

namespace Elapsed

/-- No time at all. -/
def zero : Elapsed := ⟨0, 0⟩

/-- The longest span that is written as a duration: the greatest signed number of 64 bits, in thousandths. -/
def longest : Elapsed := ⟨9223372036854775, 807000000⟩

/-- A span is no longer than another. -/
def atMost (a b : Elapsed) : Bool :=
  a.seconds < b.seconds || (a.seconds == b.seconds && a.nanoseconds ≤ b.nanoseconds)

/-- The seconds in decimal, without zeros at the end of the fraction. -/
def decimal (elapsed : Elapsed) : String :=
  let digits := (Nat.toDigits 10 (1000000000 + elapsed.nanoseconds)).drop 1
  let fraction := (digits.reverse.dropWhile (· == '0')).reverse
  toString elapsed.seconds ++ (if fraction.isEmpty then "" else "." ++ String.ofList fraction)

/-- A span as it is written. -/
def text (elapsed : Elapsed) : String :=
  if elapsed.atMost longest then
    if elapsed.seconds = 0 ∧ elapsed.nanoseconds = 0 then "P0D" else "PT" ++ elapsed.decimal ++ "S"
  else elapsed.decimal ++ "s"

end Elapsed

/-- What came of one subject. -/
structure Summary where
  /-- The name of the subject. -/
  subject : String
  /-- The finished tests, in the order in which they were recorded. -/
  reports : List Report
  deriving DecidableEq

namespace Summary

/-- The number of tests with an outcome of a kind. -/
def count (summary : Summary) (kind : Outcome → Bool) : Nat :=
  (summary.reports.filter fun report => kind report.outcome).length

/-- No test failed. -/
def allPassed (summary : Summary) : Bool :=
  summary.count Outcome.isFailed == 0

/-- The summary on one line. -/
def line (summary : Summary) (elapsed : Elapsed) : String :=
  summary.subject ++ ": " ++ toString (summary.count Outcome.isPassed) ++ " passed, " ++
    toString (summary.count Outcome.isCreated) ++ " created, " ++
    toString (summary.count Outcome.isFailed) ++ " failed, " ++
    toString (summary.count Outcome.isSkipped) ++ " skipped (" ++ elapsed.text ++ ")"

end Summary

end GoldenBench
