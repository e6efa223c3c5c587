import GoldenBench.External.Host
import GoldenBench.Text.Lines

/-!
# Small programs

The programs that a host is sure to have. Each is a function of its arguments, of what it reads and of the file
tree.

* `Posix.utility?` finds a program by its name.
-/

namespace GoldenBench.Posix

/-- Where a program runs. -/
structure Setting where
  /-- The directory it runs in. -/
  directory : Key
  /-- What it reads. -/
  input : ByteArray

/-- What a program does. -/
structure Effect where
  /-- Its exit status. -/
  status : Nat
  /-- What it writes. -/
  output : ByteArray
  /-- What it writes as messages. -/
  messages : ByteArray
  /-- The file tree afterwards. -/
  files : Store

/-- A small program. -/
abbrev Utility := Setting → List String → Store → Effect

namespace Effect

/-- A program that does nothing but exit. -/
def exit (status : Nat) (files : Store) : Effect :=
  ⟨status, .empty, .empty, files⟩

/-- A program that writes and is successful. -/
def writes (output : ByteArray) (files : Store) : Effect :=
  ⟨0, output, .empty, files⟩

/-- A program that complains. -/
def complains (status : Nat) (message : String) (files : Store) : Effect :=
  ⟨status, .empty, (message ++ "\n").toUTF8, files⟩

end Effect

/-- A path as an argument names it; the empty text names none. -/
def Setting.path (setting : Setting) (argument : String) : Path :=
  if argument.isEmpty then ⟨""⟩ else (Key.path setting.directory).join ⟨argument⟩

/-- An octal digit. -/
def octal? (c : Char) : Option Nat :=
  if '0' ≤ c ∧ c ≤ '7' then some (c.toNat - '0'.toNat) else none

/-- Reads up to a number of octal digits. -/
def readOctal (count value : Nat) : List Char → Nat × List Char
  | c :: rest =>
    match count, octal? c with
    | count + 1, some digit => readOctal count (value * 8 + digit) rest
    | _, _ => (value, c :: rest)
  | [] => (value, [])

/-- What the letter after a backslash stands for. -/
def controls : List (Char × UInt8) :=
  [('a', 7), ('b', 8), ('f', 12), ('n', 10), ('r', 13), ('t', 9), ('v', 11), ('\\', 92)]

/-- Reads what stands after a backslash: the bytes that it stands for and the text behind it. -/
def readEscape (text : List Char) : List UInt8 × List Char :=
  match text with
  | [] => ([92], [])
  | c :: rest =>
    match controls.lookup c, octal? c with
    | some byte, _ => ([byte], rest)
    | none, some _ =>
      let (value, rest) := readOctal 3 0 text
      ([UInt8.ofNat value], rest)
    | none, none => ([92], text)

/-- The bytes of a character. -/
def charBytes (c : Char) : List UInt8 :=
  (String.singleton c).toUTF8.toList

/-- A text in which backslashes stand for bytes. A zero may come before the octal digits, and the letter `c` ends
all output, which the second result tells. -/
def unescape (fuel : Nat) (text : List Char) : List UInt8 × Bool :=
  match fuel, text with
  | 0, _ => ([], false)
  | _, [] => ([], false)
  | _, '\\' :: 'c' :: _ => ([], true)
  | fuel + 1, '\\' :: '0' :: rest =>
    let (value, rest) := readOctal 3 0 rest
    let (bytes, ended) := unescape fuel rest
    (UInt8.ofNat value :: bytes, ended)
  | fuel + 1, '\\' :: rest =>
    let (first, rest) := readEscape rest
    let (bytes, ended) := unescape fuel rest
    (first ++ bytes, ended)
  | fuel + 1, c :: rest =>
    let (bytes, ended) := unescape fuel rest
    (charBytes c ++ bytes, ended)

/-- Bytes as an array. -/
def bytesOf (bytes : List UInt8) : ByteArray := ⟨bytes.toArray⟩

/-- Writes its arguments, with blanks between them, on a line; backslashes stand for bytes if so asked. -/
def echo (escapes : Bool) : Utility := fun _ arguments files =>
  let (bare, arguments) := match arguments with
    | "-n" :: rest => (true, rest)
    | arguments => (false, arguments)
  let text := " ".intercalate arguments
  let (bytes, ended) := if escapes then unescape (text.length + 1) text.toList else (text.toUTF8.toList, false)
  .writes (bytesOf (bytes ++ if bare || ended then [] else [10])) files

/-- Writes a format once: what it writes, whether it is at its end for good, and the arguments that are left. -/
def formatOnce (fuel : Nat) (format : List Char) (arguments : List String) : List UInt8 × Bool × List String :=
  match fuel, format with
  | 0, _ => ([], true, arguments)
  | _, [] => ([], false, arguments)
  | fuel + 1, '\\' :: rest =>
    let (first, rest) := readEscape rest
    let (bytes, ended, left) := formatOnce fuel rest arguments
    (first ++ bytes, ended, left)
  | fuel + 1, '%' :: '%' :: rest =>
    let (bytes, ended, left) := formatOnce fuel rest arguments
    (37 :: bytes, ended, left)
  | fuel + 1, '%' :: kind :: rest =>
    let argument := arguments.headD ""
    let (first, stop) := match kind with
      | 's' => (argument.toUTF8.toList, false)
      | 'b' => unescape (argument.length + 1) argument.toList
      | 'c' => ((argument.toList.take 1).flatMap charBytes, false)
      | 'd' | 'i' | 'u' => ((toString (argument.toInt?.getD 0)).toUTF8.toList, false)
      | kind => ('%'.toNat.toUInt8 :: charBytes kind, false)
    if stop then (first, true, arguments.drop 1)
    else
      let (bytes, ended, left) := formatOnce fuel rest (arguments.drop 1)
      (first ++ bytes, ended, left)
  | fuel + 1, c :: rest =>
    let (bytes, ended, left) := formatOnce fuel rest arguments
    (charBytes c ++ bytes, ended, left)

/-- Writes a format again and again, as long as it uses up arguments. -/
def formatAll (fuel : Nat) (format : List Char) (arguments : List String) : List UInt8 :=
  match fuel with
  | 0 => []
  | fuel + 1 =>
    let (bytes, ended, left) := formatOnce (format.length + 1) format arguments
    if ended || left.isEmpty || left.length = arguments.length then bytes else bytes ++ formatAll fuel format left

/-- Writes its arguments by a format. -/
def printf : Utility := fun _ arguments files =>
  match arguments with
  | [] => .complains 2 "printf: usage: printf format [arg ...]" files
  | format :: rest => .writes (bytesOf (formatAll (rest.length + 1) format.toList rest)) files

/-- Writes the contents of files one after another, or what it reads. -/
def cat : Utility := fun setting arguments files =>
  let contents := (if arguments.isEmpty then ["-"] else arguments).map fun argument =>
    if argument = "-" then .ok setting.input else (files.read (setting.path argument)).mapError fun fault =>
      "cat: " ++ argument ++ ": " ++ fault.reason ++ "\n"
  contents.foldl (fun effect content =>
    match content with
    | .ok bytes => { effect with output := effect.output ++ bytes }
    | .error message => { effect with status := 1, messages := effect.messages ++ message.toUTF8 }) (.exit 0 files)

/-- What is said of arguments that do not name what to copy and where. -/
def cpUsage (fault : String) : String :=
  "cp: " ++ fault ++ "\nTry 'cp --help' for more information."

/-- Copies a file to a path or into a directory. -/
def cp : Utility := fun setting arguments files =>
  match arguments with
  | [source, target] =>
    let targetPath := setting.path target
    let targetPath := if files.holdsDirectory targetPath then
        targetPath.join ⟨(Path.mk source).components.getLast?.getD ""⟩ else targetPath
    let same : Bool := match files.locate true (setting.path source), files.locate true targetPath with
      | .ok (.found a (.file _)), .ok (.found b _) => a = b
      | _, _ => false
    if same then .complains 1 ("cp: '" ++ source ++ "' and '" ++ target ++ "' are the same file") files
    else
      match files.read (setting.path source) with
      | .error .isDirectory => .complains 1 ("cp: -r not specified; omitting directory '" ++ source ++ "'") files
      | .error fault => .complains 1 ("cp: cannot stat '" ++ source ++ "': " ++ fault.reason) files
      | .ok content =>
        match files.write targetPath content with
        | .ok files => .exit 0 files
        | .error fault => .complains 1 ("cp: cannot create regular file '" ++ target ++ "': " ++ fault.reason) files
  | [source] => .complains 1 (cpUsage ("missing destination file operand after '" ++ source ++ "'")) files
  | _ => .complains 1 (cpUsage "missing file operand") files

/-- The names in a directory, but for those that begin with a dot. -/
def namesIn (files : Store) (key : Key) : List String :=
  (files.entries.filterMap fun (k, _) =>
    if key.isPrefixOf k && k.length = key.length + 1 then k.getLast? else none).filter fun name =>
      name.toList.head? != some '.'

/-- Lists a directory, a name a line. -/
def ls : Utility := fun setting arguments files =>
  let argument := arguments.headD "."
  match files.locate true (setting.path argument) with
  | .ok (.found key .directory) =>
    .writes (String.join ((namesIn files key).map (· ++ "\n"))).toUTF8 files
  | .ok (.found _ _) => .writes (argument ++ "\n").toUTF8 files
  | .ok (.absent _) => .complains 2 ("ls: cannot access '" ++ argument ++ "': " ++ FileFault.notFound.reason) files
  | .error fault => .complains 2 ("ls: cannot access '" ++ argument ++ "': " ++ fault.reason) files

/-- A text occurs in another. -/
def occursIn (part : List Char) : List Char → Bool
  | [] => part.isEmpty
  | c :: rest => part.isPrefixOf (c :: rest) || occursIn part rest

/-- Finds the lines that hold a text; without a file, in what it reads. It may be asked only whether there are
any. -/
def grep : Utility := fun setting arguments files =>
  let (quiet, operands) := match arguments with
    | "-q" :: rest => (true, rest)
    | arguments => (false, arguments)
  let search (content : ByteArray) : Effect :=
    let found := (Text.lines (Text.ofBytes content).toList).filter (occursIn (operands.headD "").toList)
    let output := if quiet then "" else String.join (found.map fun line => String.ofList line ++ "\n")
    ⟨if found.isEmpty then 1 else 0, output.toUTF8, .empty, files⟩
  match operands with
  | [] => .complains 2 "grep: no pattern" files
  | [_] => search setting.input
  | _ :: file :: _ =>
    match files.read (setting.path file) with
    | .ok content => search content
    | .error fault => .complains 2 ("grep: " ++ file ++ ": " ++ fault.reason) files

/-- The program with a name. -/
def utility? (name : String) : Option Utility :=
  match name with
  | "true" => some fun _ _ files => .exit 0 files
  | "false" => some fun _ _ files => .exit 1 files
  | "echo" => some (echo false)
  | "printf" => some printf
  | "cat" => some cat
  | "cp" => some cp
  | "ls" => some ls
  | "grep" => some grep
  | _ => none

end GoldenBench.Posix
