import GoldenBench.ErrorChain
import GoldenBench.Glob.Reader

/-!
# Filters

A filter picks fixtures by name. Without a pattern it accepts every name.

* `Filter.ofPattern?` makes a filter, `Filter.accepts` applies it.
-/

namespace GoldenBench

/-- What picks fixtures. -/
structure Filter where
  /-- The pattern, if there is one. -/
  glob? : Option Glob

namespace Filter

/-- The filter that accepts every name. -/
def all : Filter := ⟨none⟩

/-- What is said of a pattern that cannot be read. -/
def invalid (pattern : String) (fault : Glob.Fault) : ErrorChain :=
  (ErrorChain.plain ("error parsing glob '" ++ pattern ++ "': " ++ fault.message)).context
    ("Invalid fixture pattern " ++ pattern)

/-- The filter for a pattern, or for none. -/
def ofPattern? : Option String → Except ErrorChain Filter
  | none => .ok all
  | some pattern =>
    match Glob.parse pattern with
    | .ok glob => .ok ⟨some glob⟩
    | .error fault => .error (invalid pattern fault)

/-- The filter accepts a name. -/
def accepts (filter : Filter) (name : String) : Bool :=
  filter.glob?.all (·.accepts name)

end Filter

end GoldenBench
