import GoldenBench.Interop.Instance
import GoldenBench.Text.Quoted

/-!
# Checks on a running instance

A check that does not hold is recorded and does not stop anything, so all that is wrong with an instance shows at
once. Every check knows where it stands.

* `Checks.expect` and `Checks.compare` are the checks, `Checks.callI32` calls an export that takes and returns
  whole numbers.
-/

namespace GoldenBench

/-- What checks compare. -/
inductive Datum where
  /-- A whole number. -/
  | int (value : Int)
  /-- A truth value. -/
  | bool (value : Bool)
  /-- A text. -/
  | str (text : String)
  /-- A floating-point number, by the bits of a double. -/
  | real (bits : UInt64)
  /-- A value of an instance. -/
  | one (value : Value)
  /-- Several values of an instance. -/
  | many (values : List Value)
  /-- Several texts. -/
  | strs (texts : List String)
  /-- A whole number that may be absent. -/
  | optional (value : Option Int)

namespace Datum

/-- Two data are of one kind and equal; numbers are compared as numbers. -/
def same : Datum → Datum → Bool
  | .int a, .int b => a == b
  | .bool a, .bool b => a == b
  | .str a, .str b => a == b
  | .real a, .real b => Number.same .double a.toNat b.toNat
  | .one a, .one b => a.same b
  | .many a, .many b => a.length == b.length && (a.zip b).all fun (x, y) => x.same y
  | .strs a, .strs b => a == b
  | .optional a, .optional b => a == b
  | _, _ => false

/-- A datum as it looks in a failed check. -/
def inspect : Datum → String
  | .int value => toString value
  | .bool value => if value then "true" else "false"
  | .str text => Text.quote text
  | .real bits => Number.write .double .precise bits.toNat
  | .one value => value.inspect
  | .many values => bracketed (values.map Value.inspect)
  | .strs texts => bracketed (texts.map Text.quote)
  | .optional none => "None"
  | .optional (some value) => "Some(" ++ toString value ++ ")"

end Datum

/-- A check that did not hold. -/
structure FailedCheck where
  /-- Where the check stands. -/
  site : String
  /-- What was wrong. -/
  message : String
  deriving DecidableEq

/-- The wording of a failed check. -/
def FailedCheck.text (failed : FailedCheck) : String :=
  failed.site ++ ": " ++ failed.message

/-- A call of an export. -/
structure Call where
  /-- The export. -/
  name : String
  /-- The arguments. -/
  arguments : List Value
  deriving DecidableEq

/-- How a call is shown. -/
def Call.display (call : Call) : String :=
  call.name ++ "(" ++ ", ".intercalate (call.arguments.map Value.display) ++ ")"

/-- A running instance with the checks that failed on it and the calls that were made to it. -/
structure Checks where
  /-- The instance, in its present state. -/
  live : Instance
  /-- The failed checks, in the order in which they were recorded. -/
  failed : List FailedCheck
  /-- The calls, in order. -/
  calls : List Call

namespace Checks

/-- An instance that was not touched yet. -/
def start (live : Instance) : Checks := ⟨live, [], []⟩

/-- Records a failed check. -/
def record (checks : Checks) (site message : String) : Checks :=
  { checks with failed := checks.failed ++ [⟨site, message⟩] }

/-- Checks that a condition holds. -/
def expect (checks : Checks) (site : String) (holds : Bool) (what : String) : Checks :=
  if holds then checks else checks.record site ("expected " ++ what)

/-- Checks that two data are equal. -/
def compare (checks : Checks) (site : String) (actual expected : Datum) (what : String) : Checks :=
  if actual.same expected then checks
  else checks.record site (what ++ ": expected " ++ expected.inspect ++ ", got " ++ actual.inspect)

/-- Calls an export. -/
def call (checks : Checks) (name : String) (arguments : List Value) : Reply × Checks :=
  let (reply, state) := checks.live.call checks.live.state name arguments
  (reply, { checks with live := { checks.live with state := state }, calls := checks.calls ++ [⟨name, arguments⟩] })

/-- Calls an export that takes whole numbers of 32 bits and returns one. -/
def callI32 (checks : Checks) (name : String) (arguments : List Int32) : Except Failure Int32 × Checks :=
  match checks.call name (arguments.map .i32) with
  | (.values [.i32 result], checks) => (.ok result, checks)
  | (.values results, checks) =>
    (.error (.error (.plain (name ++ " returned " ++ bracketed (results.map Value.inspect) ++
      ", expected a single i32"))), checks)
  | (.error chain, checks) => (.error (.error chain), checks)
  | (.panic message, checks) => (.error (.panic message), checks)

end Checks

end GoldenBench
