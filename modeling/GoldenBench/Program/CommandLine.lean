import GoldenBench.Files.Path

/-!
# The command line

A command line asks to run or to list. Options may stand before and after the pattern, with their value behind
`=` or as the next argument; what follows `--` is no option, and neither is `-` alone. An option is taken as
settled as soon as another one begins, so of two faults the earlier one is not always the one that is reported.

* `Request.ofArguments` reads the arguments that follow the name of the program.
-/

namespace GoldenBench

/-- What the program is asked to do. -/
inductive Job where
  /-- To run every suite against the subjects of these names, recording on request what has no golden file yet. -/
  | run (create : Bool) (subjects : List String)
  /-- To list fixtures and subjects. -/
  | list
  deriving DecidableEq

/-- What the program is asked for. -/
structure Request where
  /-- What to do. -/
  job : Job
  /-- The pattern that names of fixtures must match. -/
  pattern : Option String
  /-- The configuration, if it is not the shipped one. -/
  configuration : Option Path
  deriving DecidableEq

/-- What is wrong with a command line. A call for help counts as well. -/
inductive UsageFault where
  /-- No command is given. -/
  | commandMissing
  /-- There is no such command. -/
  | unknownCommand (name : String)
  /-- An option or a further argument that the command does not take. -/
  | unknownArgument (argument : String)
  /-- An option without its value, or with an empty one that cannot be empty. -/
  | valueMissing (option : String)
  /-- A value for an option that takes none. -/
  | valueUnwanted (option : String)
  /-- An option that is given again. -/
  | repeated (option : String)
  /-- Help is asked for. -/
  | helpAsked
  deriving DecidableEq

/-- The wording of a fault. -/
def UsageFault.message : UsageFault → String
  | .commandMissing => "a command is needed: run or list"
  | .unknownCommand name => "there is no command " ++ name
  | .unknownArgument argument => "unexpected argument " ++ argument
  | .valueMissing option => "a value is needed for " ++ option
  | .valueUnwanted option => "no value is taken by " ++ option
  | .repeated option => option ++ " cannot be given more than once"
  | .helpAsked =>
    "run [--config FILE] [--create] [--subject NAME]... [PATTERN]\nlist [--config FILE] [PATTERN]"

namespace CommandLine

/-- What an argument looks like. -/
inductive Shape where
  /-- The argument after which no option follows. -/
  | ending
  /-- An option, with its value if that stands behind `=`. -/
  | long (name : String) (value : Option String)
  /-- Options of one letter. -/
  | short (first : Char)
  /-- Anything else. -/
  | plain

/-- What an argument looks like. -/
def shape (argument : String) : Shape :=
  match argument.toList with
  | ['-', '-'] => .ending
  | '-' :: '-' :: option =>
    let name := option.takeWhile (· ≠ '=')
    .long (String.ofList name)
      (if name.length = option.length then none else some (String.ofList (option.drop (name.length + 1))))
  | '-' :: first :: _ => .short first
  | _ => .plain

/-- The options that take a value. -/
inductive Setting where
  /-- The configuration. -/
  | configuration
  /-- A subject. -/
  | subject
  deriving DecidableEq

/-- The option as it is written. -/
def Setting.text : Setting → String
  | .configuration => "--config"
  | .subject => "--subject"

/-- What was read of a command line. -/
structure Draft where
  /-- The command is to run, and so takes the options of a run. -/
  runs : Bool
  /-- The pattern. -/
  pattern : Option String
  /-- The configuration. -/
  configuration : Option String
  /-- Whether what has no golden file is recorded. -/
  create : Bool
  /-- The subjects. -/
  subjects : List String
  /-- An option that is not settled yet, with its value if that has been read. -/
  waiting : Option (Setting × Option String)

namespace Draft

/-- A command line with nothing but its command. -/
def start (runs : Bool) : Draft := ⟨runs, none, none, false, [], none⟩

/-- Settles an option. -/
def set (draft : Draft) (setting : Setting) (value : String) : Except UsageFault Draft :=
  match setting with
  | .subject => .ok { draft with subjects := draft.subjects ++ [value] }
  | .configuration =>
    if draft.configuration.isSome then .error (.repeated setting.text)
    else if value.isEmpty then .error (.valueMissing setting.text)
    else .ok { draft with configuration := some value }

/-- Settles the option that is not settled yet. -/
def settle (draft : Draft) : Except UsageFault Draft :=
  match draft.waiting with
  | none => .ok draft
  | some (setting, none) => .error (.valueMissing setting.text)
  | some (setting, some value) => set { draft with waiting := none } setting value

/-- Reads an option that takes a value. -/
def readSetting (draft : Draft) (setting : Setting) (value : Option String) : Except UsageFault Draft := do
  let draft ← draft.settle
  match value with
  | some value => draft.set setting value
  | none => return { draft with waiting := some (setting, none) }

/-- Reads an option that takes no value. -/
def readSwitch (draft : Draft) (option : String) (value : Option String)
    (switch : Draft → Except UsageFault Draft) : Except UsageFault Draft := do
  if value.isSome then throw (.valueUnwanted option)
  switch (← draft.settle)

/-- Reads an option. -/
def readLong (draft : Draft) (argument name : String) (value : Option String) : Except UsageFault Draft :=
  match name, draft.runs with
  | "help", _ => draft.readSwitch "--help" value fun _ => .error .helpAsked
  | "config", _ => draft.readSetting .configuration value
  | "subject", true => draft.readSetting .subject value
  | "create", true => draft.readSwitch "--create" value fun draft =>
      if draft.create then .error (.repeated "--create") else .ok { draft with create := true }
  | _, _ => .error (.unknownArgument argument)

/-- Reads options of one letter; there is none but the call for help. -/
def readShort (draft : Draft) (argument : String) (first : Char) : Except UsageFault Draft :=
  if first = 'h' then draft.readSwitch "-h" none fun _ => .error .helpAsked
  else .error (.unknownArgument argument)

/-- Reads the pattern. -/
def readPattern (draft : Draft) (argument : String) : Except UsageFault Draft := do
  if draft.pattern.isSome then throw (.unknownArgument argument)
  return { (← draft.settle) with pattern := some argument }

/-- Reads an argument that is no option: the value that an option is waiting for, or the pattern. -/
def readPlain (draft : Draft) (argument : String) : Except UsageFault Draft :=
  match draft.waiting with
  | some (setting, none) => .ok { draft with waiting := some (setting, some argument) }
  | _ => draft.readPattern argument

/-- Reads the arguments of a command. -/
def read (draft : Draft) : List String → Except UsageFault Draft
  | [] => draft.settle
  | argument :: rest => do
    match shape argument with
    | .ending => (← rest.foldlM readPattern draft).settle
    | .long name value => (← draft.readLong argument name value).read rest
    | .short first => (← draft.readShort argument first).read rest
    | .plain => (← draft.readPlain argument).read rest

/-- What is asked for. -/
def request (draft : Draft) : Request :=
  let job : Job := if draft.runs then .run draft.create draft.subjects else .list
  ⟨job, draft.pattern, draft.configuration.map Path.mk⟩

end Draft

/-- The commands, and the call for help that is one of them. -/
def commands : List String := ["run", "list", "help"]

/-- The fault of a call for help on a command. -/
def helpOn : List String → UsageFault
  | [] => .helpAsked
  | command :: rest =>
    if commands.contains command then (rest.head?.map UsageFault.unknownCommand).getD .helpAsked
    else .unknownCommand command

/-- The fault of what stands before any command and behind `--`. -/
def behindEnding : List String → UsageFault
  | [] => .commandMissing
  | argument :: _ => if commands.contains argument then .unknownArgument "--" else .unknownCommand argument

end CommandLine

open CommandLine

/-- Reads the arguments that follow the name of the program. -/
def Request.ofArguments : List String → Except UsageFault Request
  | [] => .error .commandMissing
  | "run" :: rest => (Draft.read (.start true) rest).map Draft.request
  | "list" :: rest => (Draft.read (.start false) rest).map Draft.request
  | "help" :: rest => .error (helpOn rest)
  | argument :: rest =>
    match shape argument with
    | .ending => .error (behindEnding rest)
    | .long "help" none => .error .helpAsked
    | .long "help" (some _) => .error (.valueUnwanted "--help")
    | .short 'h' => .error .helpAsked
    | .long _ _ | .short _ => .error (.unknownArgument argument)
    | .plain => .error (.unknownCommand argument)

end GoldenBench
