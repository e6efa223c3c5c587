import GoldenBench.Json.Printer

/-!
# Options of a compilation

The options that are handed to the compiler as they are: a JSON object. Every compilation starts from
`CompilerOptions.base`, and overrides are laid over it key by key.
-/

namespace GoldenBench

/-- The options of a compilation, by key. -/
structure CompilerOptions where
  /-- The options in the order of their keys. -/
  fields : Json.Fields
  deriving Inhabited

namespace CompilerOptions

/-- No options at all. -/
def empty : CompilerOptions := ⟨[]⟩

/-- What every compilation starts from: the compiler is silent. -/
def base : CompilerOptions := ⟨[("silent", .bool true)]⟩

/-- The options with `overrides` laid over them, one after another. -/
def merge (options : CompilerOptions) (overrides : List (String × Json)) : CompilerOptions :=
  ⟨options.fields.insertAll overrides⟩

/-- The value of an option. -/
def get? (options : CompilerOptions) (key : String) : Option Json :=
  options.fields.get? key

/-- The options as a JSON object. -/
def json (options : CompilerOptions) : Json :=
  .obj options.fields

/-- The text of the options. -/
def text (options : CompilerOptions) : String :=
  options.json.compact

/-- The options, with the compiler silent whatever they say. -/
def silenced (options : CompilerOptions) : CompilerOptions :=
  options.merge [("silent", .bool true)]

theorem get?_merge_singleton (options : CompilerOptions) (key k : String) (value : Json) :
    (options.merge [(k, value)]).get? key = if key = k then some value else options.get? key :=
  Json.Fields.get?_insert key k value options.fields

end CompilerOptions

end GoldenBench
