import GoldenBench.CompilerOptions
import GoldenBench.Json.Reader
import GoldenBench.Text.Lines

/-!
# Directive lines

A source may begin with a directive line: the mark `//!` and at once a JSON object. The object's fields are laid
over the base options; keys that the base does not know are kept.

* `Directive.ofSource?` reads the directive of a source, if it has one.
* `Directive.options` gives the options a source is compiled with.
-/

namespace GoldenBench

namespace Directive

/-- The mark that a directive line begins with. -/
def mark : List Char := "//!".toList

/-- What can be wrong with a directive line. -/
inductive Fault where
  /-- What follows the mark is no JSON document. -/
  | malformed (error : Json.Error)
  /-- What follows the mark is a document other than an object. -/
  | notAnObject (found : Json)

/-- The wording of a fault. -/
def Fault.message : Fault → String
  | .malformed error => "directive line is not valid JSON: " ++ error.message
  | .notAnObject found => "directive line must hold a JSON object, found " ++ found.compact

/-- What follows the mark on the first line of a source, if the line begins with it. -/
def payload? (source : List Char) : Option (List Char) :=
  let line := Text.firstLine source
  if mark.isPrefixOf line then some (line.drop mark.length) else none

/-- The fields of the object on the directive line of a source. -/
def ofSource? (source : List Char) : Except Fault (Option Json.Fields) :=
  match payload? source with
  | none => .ok none
  | some payload =>
    match Json.parse payload with
    | .error error => .error (.malformed error)
    | .ok (.obj fields) => .ok (some fields)
    | .ok found => .error (.notAnObject found)

/-- The options a source is compiled with: the base, overridden by its directive. -/
def options (source : List Char) : Except Fault CompilerOptions :=
  (ofSource? source).map fun overrides => CompilerOptions.base.merge (overrides.getD [])

end Directive

end GoldenBench
