import GoldenBench.External.Compiler

/-!
# A converter that is a pair of external programs

Each program is given the file to read and the file to write; arguments that keep or drop names stand before them.

* `External.convert` is one conversion, `External.converter` the converter.
* `External.subject` puts a configured subject together.
-/

namespace GoldenBench.External

/-- The arguments of one conversion. -/
def converterArguments (tool : ConverterTool) (preserveNames : Bool) (input output : Path) : List String :=
  (if preserveNames then tool.keepNames else tool.dropNames) ++ [input.text, "-o", output.text]

/-- Converts a file of one kind to one of another. -/
def convert (host : Host) (tool : ConverterTool) (home : Path) (kinds : String × String) (preserveNames : Bool)
    (input : ByteArray) : Errand (Except ErrorChain ByteArray) :=
  Errand.withScratch (fun fault => .error (noDirectory "a conversion" fault)) fun scratch => do
    let inputPath := scratch.join ⟨"input." ++ kinds.1⟩
    let outputPath := scratch.join ⟨"output." ++ kinds.2⟩
    match (← Errand.files).write inputPath input with
    | .error fault => return .error (fileError "writing " inputPath fault)
    | .ok files =>
      Errand.setFiles files
      match ← tool.run host home (converterArguments tool preserveNames inputPath outputPath) with
      | .error chain => return .error chain
      | .ok output =>
        match output.check tool.program with
        | .error chain => return .error chain
        | .ok _ => return ((← Errand.files).read outputPath).mapError (fileError "reading " outputPath)

/-- The text that bytes stand for; bytes that stand for none are an error. -/
def decode (bytes : ByteArray) : Except ErrorChain String :=
  match Text.firstFault? bytes with
  | some fault => .error (.plain fault.message)
  | none => .ok (Text.ofBytes bytes)

/-- A converter that is a pair of external programs. -/
def converter (host : Host) (toBinary toText : ConverterTool) (home : Path) : Converter where
  toBinary preserveNames text := do
    return (← convert host toBinary home ("wat", "wasm") preserveNames text.toUTF8).mapError .error
  toText preserveNames binary := do
    let converted ← convert host toText home ("wasm", "wat") preserveNames binary
    return (converted.bind decode).mapError .error

/-- Puts a configured subject together. -/
def subject (host : Host) (spec : SubjectSpec) (home : Path) (loader : Loader) : Subject :=
  ⟨spec.name, compiler host spec.compiler home, converter host spec.toBinary spec.toText home, loader⟩

end GoldenBench.External
