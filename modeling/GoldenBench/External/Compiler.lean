import GoldenBench.External.Host
import GoldenBench.Messages
import GoldenBench.Subject

/-!
# A compiler that is an external program

The program is given an input, the files to write the text and the binary of the module to, and the options; it is
asked to optimize with one more argument. It reports diagnostics among its messages, and an unsuccessful exit is a
failed compilation. A source held in memory is written once, and every run on it finds what the runs before have left.

* `External.compileOnce` is one run of the program: the text and the binary that it gives stem from this run alone.
* `External.compiler` is the compiler.
-/

namespace GoldenBench.External

/-- The text and the binary from one run of a compiler. -/
structure Emitted where
  /-- The text of the module. -/
  text : String
  /-- The binary of the module. -/
  binary : ByteArray
  deriving DecidableEq

/-- The bytes that every binary begins with. -/
def magic : List UInt8 := [0x00, 0x61, 0x73, 0x6D]

/-- The bytes of the version that follows. -/
def version : List UInt8 := [0x01, 0x00, 0x00, 0x00]

/-- The binary begins as one must. -/
def validity (binary : ByteArray) : Except ErrorChain Unit :=
  let bytes := binary.toList
  if bytes.take 4 ≠ magic then .error (.plain "binary does not start with the module magic number")
  else if (bytes.drop 4).take 4 ≠ version then .error (.plain "binary is not version 1")
  else .ok ()

/-- What a module emits that was written by a compiler. -/
def Emitted.emission (emitted : Emitted) : Emission :=
  ⟨validity emitted.binary, .ok emitted.text, .ok emitted.binary⟩

/-- A fault of a file as the cause of an error. -/
def fileError (what : String) (path : Path) (fault : FileFault) : ErrorChain :=
  .because (what ++ path.text) fault.message

/-- The error where there is no place for a scratch directory. -/
def noDirectory (kind : String) (fault : FileFault) : ErrorChain :=
  .because ("creating " ++ kind ++ " directory") fault.message

/-- Reads the files that a compiler wrote. -/
def readEmitted (textPath binaryPath : Path) (files : Store) : Except ErrorChain Emitted := do
  let text ← (files.readText textPath).mapError (fileError "reading " textPath)
  let binary ← (files.read binaryPath).mapError (fileError "reading " binaryPath)
  return ⟨text, binary⟩

/-- What a run gives that has ended: nothing but an error, unless it was successful and wrote both files. -/
def emitted (output : ToolOutput) (textPath binaryPath : Path) (files : Store) : Except ErrorChain Emitted :=
  if output.status ≠ 0 then .error (.plain ("compiler exited with " ++ output.statusText))
  else readEmitted textPath binaryPath files

/-- The arguments of one run. -/
def compilerArguments (input textPath binaryPath : Path) (options : CompilerOptions) (optimize : Bool) :
    List String :=
  [input.text, "--textFile", textPath.text, "--binaryFile", binaryPath.text, "--config", options.text] ++
    if optimize then ["--optimize"] else []

/-- Runs a compiler once, with a directory for the files that it writes. -/
def compileIn (host : Host) (tool : Tool) (home : Path) (options : CompilerOptions) (optimize : Bool)
    (input scratch : Path) : Errand (Except ErrorChain Emitted × List Diagnostic) := do
  let textPath := scratch.join ⟨"module.wat"⟩
  let binaryPath := scratch.join ⟨"module.wasm"⟩
  match ← tool.run host home (compilerArguments input textPath binaryPath options optimize) with
  | .error chain => return (.error chain, [])
  | .ok output =>
    let diagnostics ← Errand.readMessages output.messages
    return (emitted output textPath binaryPath (← Errand.files), diagnostics)

/-- Runs a compiler once. -/
def compileOnce (host : Host) (tool : Tool) (home : Path) (options : CompilerOptions) (optimize : Bool)
    (input : Path) : Errand (Except ErrorChain Emitted × List Diagnostic) :=
  Errand.withScratch (fun fault => (.error (noDirectory "an output" fault), []))
    (compileIn host tool home options optimize input)

/-- An input on disk. -/
structure Staged where
  /-- Its path. -/
  path : Path
  /-- The directory that was made for it, if one was. -/
  scratch : Option Scratch
  /-- What is in that directory. It is kept apart from the file tree as long as no program runs on the input. -/
  kept : Parcel

/-- Puts an input on disk: a source held in memory is written to a directory of its own. -/
def stage : CompilerInput → Errand (Except ErrorChain Staged)
  | .file path => return .ok ⟨path, none, []⟩
  | .memory name source => do
    match ← Errand.makeScratch with
    | .error fault => return .error (noDirectory "a source" fault)
    | .ok scratch =>
      let path := scratch.path.join ⟨name⟩
      match (← Errand.files).write path source.toUTF8 with
      | .error fault =>
        Errand.dropScratch scratch
        return .error (fileError "writing " path fault)
      | .ok files =>
        Errand.setFiles files
        return .ok ⟨path, some scratch, ← Errand.packUp scratch⟩

/-- Runs a compiler once on an input on disk. The answer is what came of the run, and what is kept of the input from
then on. -/
def compileStaged (host : Host) (tool : Tool) (home : Path) (options : CompilerOptions) (optimize : Bool)
    (staged : Staged) : Errand ((Except ErrorChain Emitted × List Diagnostic) × Parcel) := do
  Errand.unpack staged.kept
  let ran ← compileOnce host tool home options optimize staged.path
  match staged.scratch with
  | none => return (ran, [])
  | some scratch => return (ran, ← Errand.packUp scratch)

/-- Optimizes by running the compiler once more on the same input, with what is kept of it. A run that fails changes
nothing of what was compiled before. -/
def optimize (host : Host) (tool : Tool) (home : Path) (options : CompilerOptions) (staged : Staged) (kept : Parcel) :
    Errand (Except ErrorChain (List Diagnostic × Emission) × Parcel) := do
  match ← compileStaged host tool home options true { staged with kept := kept } with
  | ((.ok emitted, diagnostics), left) => return (.ok (diagnostics, emitted.emission), left)
  | ((.error chain, _), left) => return (.error (chain.context "optimizing"), left)

/-- A compiler that is an external program. -/
def compiler (host : Host) (tool : Tool) (home : Path) : Compiler where
  compile input options := do
    match ← stage input with
    | .error chain => return ⟨.error (.error chain), []⟩
    | .ok staged =>
      match ← compileStaged host tool home options false staged with
      | ((.ok emitted, diagnostics), kept) =>
        return ⟨.ok { emitted.emission with kept := kept, optimize := optimize host tool home options staged },
          diagnostics⟩
      | ((.error chain, diagnostics), _) => return ⟨.error (.error chain), diagnostics⟩

end GoldenBench.External
