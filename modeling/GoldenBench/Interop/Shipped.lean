import GoldenBench.Interop.Runner

/-!
# The runners that come with the program

* `Runner.add` tries an export that adds, with a sum that wraps around.
* `Runner.identity` tries an export that returns its argument.
-/

namespace GoldenBench.Runner

/-- Calls an export with whole numbers and checks its result, one call after another. -/
def checkCalls (site name : String) (next : Runner) : List (List Int32 × Int32) → Runner
  | [] => next
  | (arguments, expected) :: rest =>
    .callI32 name arguments fun result =>
      .compare site (.int result.toInt) (.int expected.toInt)
        (name ++ "(" ++ ", ".intercalate (arguments.map fun n => toString n.toInt) ++ ")")
        (checkCalls site name next rest)

/-- The export is there, and adds. -/
def add (site : String) : Runner :=
  .exports fun names =>
    .expect site (names.contains "add") "an export named add" <|
      checkCalls site "add" .finish <|
        [((1 : Int32), (2 : Int32)), (-5, 5), (2147483647, 1)].map fun (a, b) => ([a, b], a + b)

/-- The export returns its argument. -/
def identity (site : String) : Runner :=
  checkCalls site "identity" .finish <|
    [(0 : Int32), 42, -1, -2147483648].map fun x => ([x], x)

end GoldenBench.Runner
