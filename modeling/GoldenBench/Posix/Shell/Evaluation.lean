import GoldenBench.Posix.Shell.Expansion
import GoldenBench.Posix.Shell.Reader
import GoldenBench.Posix.Utilities
import GoldenBench.Text.Lossy

/-!
# Running scripts

A script runs in a shell: it has variables, arguments, a directory, and what was written so far. A script that
takes too many steps is stopped.

* `Shell.eval` runs a script, `Shell.run` a whole shell with its arguments.
-/

namespace GoldenBench.Posix

/-- Where a stream that is written to leads. -/
inductive Sink where
  /-- To what the shell writes. -/
  | output
  /-- To what the shell writes as messages. -/
  | messages
  /-- To the end of a file. -/
  | file (key : Key)
  /-- Nowhere. -/
  | nowhere

/-- The streams of a script. -/
structure Streams where
  /-- What it reads. -/
  input : ByteArray
  /-- Where it writes. -/
  output : Sink
  /-- Where it writes messages. -/
  messages : Sink

/-- A shell. -/
structure Shell where
  /-- The file tree. -/
  files : Store
  /-- The directory it is in. -/
  directory : Key
  /-- The values of its variables, the one set last first. -/
  values : List (String × String)
  /-- The name it goes by. -/
  name : String
  /-- The arguments of its script. -/
  arguments : List String
  /-- The exit status of the last command. -/
  status : Nat
  /-- What it has written. -/
  output : ByteArray
  /-- What it has written as messages. -/
  messages : ByteArray
  /-- It is at its end. -/
  ended : Bool

namespace Shell

/-- The value of a parameter. -/
def valueOf (shell : Shell) (name : String) : String :=
  if name = "#" then toString shell.arguments.length
  else if name = "?" then toString shell.status
  else if name = "*" then " ".intercalate shell.arguments
  else
    match name.toNat? with
    | some 0 => shell.name
    | some (n + 1) => shell.arguments[n]?.getD ""
    | none => (shell.values.lookup name).getD ""

/-- Writes bytes to where a stream leads. -/
def write (shell : Shell) (sink : Sink) (bytes : ByteArray) : Shell :=
  match sink with
  | .output => { shell with output := shell.output ++ bytes }
  | .messages => { shell with messages := shell.messages ++ bytes }
  | .nowhere => shell
  | .file key =>
    match shell.files.find? key with
    | some (.file content) => { shell with files := shell.files.insert key (.file (content ++ bytes)) }
    | _ => { shell with files := shell.files.insert key (.file bytes) }

/-- Complains about a command. -/
def complain (shell : Shell) (streams : Streams) (line status : Nat) (message : String) : Shell :=
  { shell.write streams.messages (shell.name ++ ": " ++ toString line ++ ": " ++ message ++ "\n").toUTF8 with
    status := status }

/-- A path as the shell sees it. -/
def path (shell : Shell) (text : String) : Path :=
  Setting.path ⟨shell.directory, .empty⟩ text

/-- Opens a file to write to. -/
def openFile (shell : Shell) (append : Bool) (target : String) : Except FileFault (Sink × Shell) :=
  if target = "/dev/null" then .ok (.nowhere, shell)
  else
    match shell.files.locate true (shell.path target) with
    | .ok (.found key (.file content)) =>
      .ok (.file key, { shell with files := shell.files.insert key (.file (if append then content else .empty)) })
    | .ok (.found _ _) => .error .isDirectory
    | .ok (.absent key) =>
      if shell.files.isSealed key then .error .denied
      else .ok (.file key, { shell with files := shell.files.insert key (.file .empty) })
    | .error fault => .error fault

/-- What is said of a file that cannot be written. -/
def cannotWrite (target : String) (fault : FileFault) : String :=
  let reason := if fault = .notFound || fault = .notDirectory then "Directory nonexistent" else fault.reason
  "cannot create " ++ target ++ ": " ++ reason

/-- What is said of a file that cannot be read. -/
def cannotRead (source : String) (fault : FileFault) : String :=
  let reason := if fault = .notFound || fault = .notDirectory then "No such file" else fault.reason
  "cannot open " ++ source ++ ": " ++ reason

/-- Redirects a stream. -/
def redirect (bindings : Bindings) (shell : Shell) (streams : Streams) :
    Redirection → Except String (Streams × Shell)
  | .toStream .output .messages => .ok ({ streams with output := streams.messages }, shell)
  | .toStream .messages .output => .ok ({ streams with messages := streams.output }, shell)
  | .toStream _ _ => .ok (streams, shell)
  | .fromFile source =>
    let name := bindings.value source
    if name = "/dev/null" then .ok ({ streams with input := .empty }, shell)
    else
      match shell.files.read (shell.path name) with
      | .ok content => .ok ({ streams with input := content }, shell)
      | .error fault => .error (cannotRead name fault)
  | .toFile stream append target =>
    let name := bindings.value target
    match shell.openFile append name with
    | .error fault => .error (cannotWrite name fault)
    | .ok (sink, shell) =>
      match stream with
      | .output => .ok ({ streams with output := sink }, shell)
      | .messages => .ok ({ streams with messages := sink }, shell)
      | .input => .ok (streams, shell)

/-- Redirects streams, one after another. -/
def redirectAll (bindings : Bindings) (shell : Shell) (streams : Streams) :
    List Redirection → Except String (Streams × Shell)
  | [] => .ok (streams, shell)
  | redirection :: rest =>
    match redirect bindings shell streams redirection with
    | .error message => .error message
    | .ok (streams, shell) => redirectAll bindings shell streams rest

/-- What two numbers are asked for. -/
def compareNumbers : String → Option (Int → Int → Bool)
  | "-eq" => some (· == ·)
  | "-ne" => some (· != ·)
  | "-gt" => some (· > ·)
  | "-ge" => some (· ≥ ·)
  | "-lt" => some (· < ·)
  | "-le" => some (· ≤ ·)
  | _ => none

/-- The answer to a question; no answer if it makes no sense. -/
def test (shell : Shell) : List String → Option Bool
  | [] => some false
  | ["!"] => some true
  | "!" :: rest => (test shell rest).map Bool.not
  | [text] => some (!text.isEmpty)
  | [question, text] =>
    let found := shell.files.locate true (shell.path text)
    match question with
    | "-n" => some (!text.isEmpty)
    | "-z" => some text.isEmpty
    | "-e" => some (found matches .ok (.found ..))
    | "-f" => some (found matches .ok (.found _ (.file _)))
    | "-d" => some (found matches .ok (.found _ .directory))
    | "-r" | "-w" => some (found matches .ok (.found ..))
    | "-s" => match found with
      | .ok (.found _ (.file content)) => some (content.size != 0)
      | _ => some false
    | _ => none
  | [left, operation, right] =>
    match operation, compareNumbers operation with
    | "=", _ => some (left == right)
    | "!=", _ => some (left != right)
    | _, some holds =>
      match left.toInt?, right.toInt? with
      | some a, some b => some (holds a b)
      | _, _ => none
    | _, none => none
  | _ => none

/-- The shell after a command with an exit status. -/
def finish (shell : Shell) (status : Nat) : Shell :=
  { shell with status := status }

/-- The shell after an effect of a small program. -/
def apply (shell : Shell) (streams : Streams) (effect : Effect) : Shell :=
  let shell := { shell with files := effect.files, status := effect.status }
  (shell.write streams.output effect.output).write streams.messages effect.messages

/-- Goes to another directory. -/
def changeDirectory (shell : Shell) (streams : Streams) (line : Nat) (target : String) : Shell :=
  match shell.files.locate true (shell.path target) with
  | .ok (.found key .directory) => { shell with directory := key, status := 0 }
  | _ => shell.complain streams line 2 ("cd: can't cd to " ++ target)

/-- Runs a command that is part of the shell, if it is one. -/
def builtin? (shell : Shell) (streams : Streams) (line : Nat) (name : String) (arguments : List String) :
    Option Shell :=
  let utility (run : Utility) : Shell :=
    shell.apply streams (run ⟨shell.directory, streams.input⟩ arguments shell.files)
  let asked (question : List String) : Shell :=
    match shell.test question with
    | some true => shell.finish 0
    | some false => shell.finish 1
    | none => shell.complain streams line 2 (name ++ ": unexpected operator")
  match name with
  | ":" => some (shell.finish 0)
  | "exit" => some { shell with
      ended := true, status := ((arguments.head?.bind String.toNat?).getD shell.status) % 256 }
  | "shift" =>
    let count := (arguments.head?.bind String.toNat?).getD 1
    if shell.arguments.length < count then
      some { shell.complain streams line 2 "shift: can't shift that many" with ended := true }
    else some { shell.finish 0 with arguments := shell.arguments.drop count }
  | "set" => some (match arguments with
      | "--" :: arguments => { shell.finish 0 with arguments := arguments }
      | _ => shell.finish 0)
  | "cd" => some (shell.changeDirectory streams line (arguments.headD "/"))
  | "pwd" => some ((shell.finish 0).write streams.output ((Key.path shell.directory).text ++ "\n").toUTF8)
  | "echo" => some (utility (echo true))
  | "test" => some (asked arguments)
  | "[" =>
    if arguments.getLast? = some "]" then some (asked arguments.dropLast)
    else some (shell.complain streams line 2 "[: missing ]")
  | _ => (utility? name).map utility

/-- A text without the ends of lines at its end. -/
def withoutLineEnds (text : String) : String :=
  String.ofList (text.toList.reverse.dropWhile (· = '\n')).reverse

/-- What comes of a script that ran apart: its output and messages, its files and its status. -/
def rejoin (shell inner : Shell) : Shell :=
  { shell with files := inner.files, output := inner.output, messages := inner.messages, status := inner.status }

/-- Runs a script, in so many steps at most. -/
def eval (fuel : Nat) (script : Script) (streams : Streams) (shell : Shell) : Shell :=
  match fuel with
  | 0 => { shell with ended := true, status := 137 }
  | fuel + 1 =>
    let captured (script : Script) (streams : Streams) (shell : Shell) : ByteArray × Shell :=
      let inner := eval fuel script { streams with output := .output } { shell with output := .empty }
      (inner.output, { rejoin shell inner with output := shell.output })
    let bindings : Bindings := ⟨shell.valueOf, shell.arguments, fun text =>
      match Script.ofText? text with
      | some script => withoutLineEnds (Text.ofBytes (captured script streams shell).1)
      | none => ""⟩
    match script with
    | .skip => shell
    | .sequence first second =>
      let shell := eval fuel first streams shell
      if shell.ended then shell else eval fuel second streams shell
    | .and first second =>
      let shell := eval fuel first streams shell
      if shell.ended || shell.status ≠ 0 then shell else eval fuel second streams shell
    | .or first second =>
      let shell := eval fuel first streams shell
      if shell.ended || shell.status = 0 then shell else eval fuel second streams shell
    | .not script =>
      let shell := eval fuel script streams shell
      if shell.ended then shell else shell.finish (if shell.status = 0 then 1 else 0)
    | .pipe first second =>
      let (output, shell) := captured first streams shell
      rejoin shell (eval fuel second { streams with input := output } shell)
    | .apart body => rejoin shell (eval fuel body streams shell)
    | .branch condition yes no =>
      let shell := eval fuel condition streams shell
      if shell.ended then shell
      else if shell.status = 0 then eval fuel yes streams (shell.finish 0)
      else eval fuel no streams (shell.finish 0)
    | .loop wanted condition body =>
      let asked := eval fuel condition streams shell
      if asked.ended then asked
      else if (asked.status == 0) != wanted then asked.finish 0
      else
        let after := eval fuel body streams asked
        if after.ended then after else eval fuel (.loop wanted condition body) streams after
    | .each name words body =>
      (words.flatMap bindings.fields).foldl (fun shell value =>
        if shell.ended then shell
        else eval fuel body streams { shell with values := (name, value) :: shell.values }) (shell.finish 0)
    | .select subject patterns body otherwise =>
      let text := bindings.value subject
      if patterns.any (bindings.fits · text) then eval fuel body streams (shell.finish 0)
      else eval fuel otherwise streams (shell.finish 0)
    | .group body line redirections =>
      match redirectAll bindings shell streams redirections with
      | .error message => shell.complain streams line 2 message
      | .ok (streams, shell) => eval fuel body streams shell
    | .command line settings words redirections =>
      let fields := words.flatMap bindings.fields
      let set := settings.map fun (name, word) => (name, bindings.value word)
      match redirectAll bindings shell streams redirections with
      | .error message => shell.complain streams line 2 message
      | .ok (streams, shell) =>
        match fields with
        | [] => { shell.finish 0 with values := set.reverse ++ shell.values }
        | "sh" :: "-c" :: text :: arguments =>
          match Script.ofText? text with
          | none => shell.complain streams line 2 "Syntax error"
          | some script =>
            rejoin shell (eval fuel script streams { shell with
              values := [], name := arguments.headD "sh", arguments := arguments.drop 1, status := 0 })
        | name :: arguments =>
          match shell.builtin? streams line name arguments with
          | some shell => shell
          | none => shell.complain streams line 127 (name ++ ": not found")

/-- The most steps of a script. -/
def stepLimit : Nat := 100000

/-- Runs a shell with its arguments: a script, the name it goes by, and the arguments of the script. -/
def run (directory : Key) (arguments : List String) (files : Store) : Effect :=
  match arguments with
  | "-c" :: text :: arguments =>
    let start : Shell := ⟨files, directory, [], arguments.headD "sh", arguments.drop 1, 0, .empty, .empty, false⟩
    match Script.ofText? text with
    | none => .complains 2 (start.name ++ ": 1: Syntax error") files
    | some script =>
      let shell := eval stepLimit script ⟨.empty, .output, .messages⟩ start
      ⟨shell.status, shell.output, shell.messages, shell.files⟩
  | _ => .exit 0 files

end Shell

end GoldenBench.Posix
