import GoldenBench.Configuration.Basic
import GoldenBench.World
import GoldenBench.Yaml.Node

/-!
# Reading configurations

A configuration is a YAML mapping. A field that is not known or that occurs twice is refused; what is missing has a
default, except the subjects and what a subject consists of.

* `Configuration.parse` reads a configuration from a text, `Configuration.load` from a file.
-/

namespace GoldenBench

namespace Yaml.Node

/-- The fields of a mapping, unless one of them is not known or occurs twice. -/
def fields? (known : List String) (node : Node) : Option (List (String × Node)) := do
  let entries ← match node with
    | .map entries => some entries
    | .scalar "" true _ => some []
    | _ => none
  let fields ← entries.mapM fun (key, value) => return (← key.text?, value)
  let names := fields.map (·.1)
  if names.all known.contains && names.eraseDups.length = names.length then return fields
  failure

/-- A list of texts. -/
def texts? (node : Node) : Option (List String) := do
  (← node.items?).mapM text?

/-- A text that may be null. -/
def nullable? (node : Node) : Option (Option String) :=
  if node.isNull then some none else if node.isFalseNull then none else node.text?.map some

/-- A field that must be there. -/
def required {α : Type} (fields : List (String × Node)) (name : String) (read : Node → Option α) : Option α :=
  (fields.lookup name).bind read

/-- A field that has a default. -/
def optional {α : Type} (fields : List (String × Node)) (name : String) (default : α) (read : Node → Option α) :
    Option α :=
  match fields.lookup name with
  | some node => read node
  | none => some default

end Yaml.Node

namespace Configuration

open Yaml (Node)
open Yaml.Node (required optional)

/-- The fields of a tool. -/
def toolFields : List String := ["program", "args", "working_dir"]

/-- A tool from its fields. -/
def readTool (fields : List (String × Node)) : Option Tool := do
  return ⟨← required fields "program" Node.text?, ← optional fields "args" [] Node.texts?,
    (← optional fields "working_dir" none Node.nullable?).map Path.mk⟩

/-- A tool that converts. -/
def readConverterTool (node : Node) : Option ConverterTool := do
  let fields ← node.fields? (toolFields ++ ["preserve_names_args", "discard_names_args"])
  return ⟨← readTool fields, ← optional fields "preserve_names_args" [] Node.texts?,
    ← optional fields "discard_names_args" [] Node.texts?⟩

/-- A subject. -/
def readSubject (node : Node) : Option SubjectSpec := do
  let fields ← node.fields? ["name", "compiler", "converter"]
  let name ← required fields "name" Node.text?
  let compiler ← required fields "compiler" (·.fields? toolFields)
  let converter ← required fields "converter" (·.fields? ["to_binary", "to_text"])
  return ⟨name, ← readTool compiler, ← required converter "to_binary" readConverterTool,
    ← required converter "to_text" readConverterTool⟩

/-- A configuration whose file is in a directory. -/
def read (base : Path) (node : Node) : Option Configuration := do
  let fields ← node.fields? ["fixtures_dir", "interop_dir", "source_extension", "golden_extension",
    "interop_suffix", "smoke_source", "subjects"]
  return {
    fixturesDirectory := ⟨← optional fields "fixtures_dir" "fixtures" Node.text?⟩
    interopDirectory := ⟨← optional fields "interop_dir" "interop" Node.text?⟩
    sourceExtension := ← optional fields "source_extension" "ts" Node.text?
    goldenExtension := ← optional fields "golden_extension" "wat" Node.text?
    interopSuffix := ← optional fields "interop_suffix" "test" Node.text?
    smokeSource := ← optional fields "smoke_source" none Node.nullable?
    subjects := ← required fields "subjects" fun node => do (← node.items?).mapM readSubject
    base := base }

/-- Reads a configuration from the text of a file at a path. -/
def parse (text : String) (origin : Path) : Except Fault Configuration :=
  match (Node.ofText? text).bind (read (origin.parent?.getD ⟨""⟩)) with
  | some configuration => configuration.check
  | none => .error (.unparsable origin)

/-- Reads a configuration from a file; a relative path is one from a directory. -/
def load (path directory : Path) : Run (Except Fault Configuration) := do
  let path := directory.join path
  match ← Run.readText path with
  | .ok text => return parse text path
  | .error fault => return .error (.unreadable path fault)

end Configuration

end GoldenBench
