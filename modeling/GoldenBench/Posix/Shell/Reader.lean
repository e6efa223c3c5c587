import GoldenBench.Posix.Shell.Token

/-!
# Reading scripts

Commands stand on lines or between `;`; what begins with a word such as `if` or `while` reaches to the word that
ends it.

* `Script.ofText?` reads a whole script.
-/

namespace GoldenBench.Posix.Script

/-- What a reader answers: a result and the tokens behind it. -/
abbrev Read (α : Type) := List Token → Option (α × List Token)

/-- The words that end a list of commands. -/
def closers : List String := ["then", "elif", "else", "fi", "do", "done", "esac", "\x7d"]

/-- A word without quotes at the head of tokens. -/
def head? : List Token → Option String
  | .word _ word :: _ => word.bare?
  | _ => none

/-- Passes over the ends of lines. -/
def skipLines : List Token → List Token
  | .newline :: rest => skipLines rest
  | tokens => tokens

/-- Expects a word. -/
def expect (text : String) : Read Unit := fun tokens =>
  if head? (skipLines tokens) = some text then some ((), (skipLines tokens).drop 1) else none

/-- Expects an operator. -/
def expectOperator (text : String) : Read Unit := fun tokens =>
  match tokens with
  | .operator operator :: rest => if operator = text then some ((), rest) else none
  | _ => none

/-- A word that sets a variable: its name and its value. -/
def setting? : Word → Option (String × Word)
  | .text false text :: rest =>
    let name := text.toList.takeWhile (· ≠ '=')
    let value := text.toList.drop (name.length + 1)
    if name.length < text.length && name.all Token.extendsName && (name.head?.map Token.beginsName).getD false then
      some (String.ofList name, if value.isEmpty then rest else .text false (String.ofList value) :: rest)
    else none
  | _ => none

/-- The parts of a command read so far, each in reverse. -/
structure Parts where
  /-- Variables to set. -/
  settings : List (String × Word)
  /-- Words. -/
  words : List Word
  /-- Redirections. -/
  redirections : List Redirection

/-- Reads redirections. -/
def readRedirections : List Token → Option (List Redirection × List Token)
  | .redirect make :: .word _ target :: rest =>
    match make target with
    | none => none
    | some redirection =>
      (readRedirections rest).map fun (redirections, rest) => (redirection :: redirections, rest)
  | tokens => some ([], tokens)

/-- Reads the parts of a command. -/
def readParts (parts : Parts) : List Token → Option (Parts × List Token)
  | .redirect make :: .word _ target :: rest =>
    match make target with
    | none => none
    | some redirection => readParts { parts with redirections := redirection :: parts.redirections } rest
  | .word _ word :: rest =>
    match parts.words, setting? word with
    | [], some setting => readParts { parts with settings := setting :: parts.settings } rest
    | _, _ => readParts { parts with words := word :: parts.words } rest
  | tokens => some (parts, tokens)

/-- Reads a command that is not made of others. -/
def readCommand (line : Nat) : Read Script := fun tokens => do
  let (parts, rest) ← readParts ⟨[], [], []⟩ tokens
  if rest.length = tokens.length then none
  else some (.command line parts.settings.reverse parts.words.reverse parts.redirections.reverse, rest)

/-- Reads words up to the end of a line or a semicolon. -/
def readWords : List Token → List Word × List Token
  | .word _ word :: rest =>
    let (words, rest) := readWords rest
    (word :: words, rest)
  | tokens => ([], tokens)

/-- Reads the patterns of a branch, up to and with the parenthesis that closes them. -/
def readPatterns : List Token → Option (List Word × List Token)
  | .word _ word :: .operator ")" :: rest => some ([word], rest)
  | .word _ word :: .operator "|" :: rest => (readPatterns rest).map fun (words, rest) => (word :: words, rest)
  | _ => none

/-- The line of the first word. -/
def lineOf : List Token → Nat
  | .word line _ :: _ => line
  | _ => 1

mutual

/-- Reads commands, one after another, up to a word or an operator that ends them. -/
def readList (fuel : Nat) : Read Script := fun tokens =>
  match fuel with
  | 0 => none
  | fuel + 1 =>
    match tokens with
    | [] => some (.skip, [])
    | .newline :: rest => readList fuel rest
    | .operator ")" :: _ => some (.skip, tokens)
    | .operator ";;" :: _ => some (.skip, tokens)
    | _ =>
      if ((head? tokens).map closers.contains).getD false then some (.skip, tokens)
      else do
        let (first, rest) ← readChain fuel tokens
        match rest with
        | .operator ";" :: rest | .newline :: rest => do
          let (second, rest) ← readList fuel rest
          return (.sequence first second, rest)
        | _ => return (first, rest)

/-- Reads pipes with `&&` and `||` between them. -/
def readChain (fuel : Nat) : Read Script := fun tokens =>
  match fuel with
  | 0 => none
  | fuel + 1 => do
    let (first, rest) ← readPipe fuel tokens
    readMore fuel first rest

/-- Reads what `&&` and `||` put behind a script. -/
def readMore (fuel : Nat) (first : Script) : Read Script := fun tokens =>
  match fuel, tokens with
  | 0, _ => none
  | fuel + 1, .operator "&&" :: rest => do
    let (second, rest) ← readPipe fuel (skipLines rest)
    readMore fuel (.and first second) rest
  | fuel + 1, .operator "||" :: rest => do
    let (second, rest) ← readPipe fuel (skipLines rest)
    readMore fuel (.or first second) rest
  | _, _ => some (first, tokens)

/-- Reads commands with `|` between them. -/
def readPipe (fuel : Nat) : Read Script := fun tokens =>
  match fuel with
  | 0 => none
  | fuel + 1 =>
    if head? tokens = some "!" then do
      let (script, rest) ← readPipe fuel (tokens.drop 1)
      return (.not script, rest)
    else do
      let (first, rest) ← readOne fuel tokens
      match rest with
      | .operator "|" :: rest => do
        let (second, rest) ← readPipe fuel (skipLines rest)
        return (.pipe first second, rest)
      | _ => return (first, rest)

/-- Reads a command and the redirections of what is made of others. -/
def readOne (fuel : Nat) : Read Script := fun tokens =>
  match fuel with
  | 0 => none
  | fuel + 1 =>
    let grouped (read : Option (Script × List Token)) : Option (Script × List Token) := do
      let (body, rest) ← read
      let (redirections, rest) ← readRedirections rest
      return (if redirections.isEmpty then body else .group body (lineOf tokens) redirections, rest)
    match tokens with
    | .operator "(" :: rest => grouped do
      let (body, rest) ← readList fuel rest
      let ((), rest) ← expectOperator ")" rest
      return (.apart body, rest)
    | .word line word :: rest =>
      match word.bare? with
      | some "if" => grouped (readBranch fuel rest)
      | some "while" => grouped (readLoop fuel true rest)
      | some "until" => grouped (readLoop fuel false rest)
      | some "for" => grouped (readEach fuel rest)
      | some "case" => grouped do
        match rest with
        | .word _ subject :: rest => do
          let ((), rest) ← expect "in" rest
          readSelect fuel subject rest
        | _ => none
      | some "\x7b" => grouped do
        let (body, rest) ← readList fuel rest
        let ((), rest) ← expect "\x7d" rest
        return (body, rest)
      | _ => readCommand line tokens
    | _ => readCommand 1 tokens

/-- Reads a choice by a condition, without its first word. -/
def readBranch (fuel : Nat) : Read Script := fun tokens =>
  match fuel with
  | 0 => none
  | fuel + 1 => do
    let (condition, rest) ← readList fuel tokens
    let ((), rest) ← expect "then" rest
    let (yes, rest) ← readList fuel rest
    match head? rest with
    | some "fi" => return (.branch condition yes .skip, rest.drop 1)
    | some "elif" => do
      let (no, rest) ← readBranch fuel (rest.drop 1)
      return (.branch condition yes no, rest)
    | some "else" => do
      let (no, rest) ← readList fuel (rest.drop 1)
      let ((), rest) ← expect "fi" rest
      return (.branch condition yes no, rest)
    | _ => none

/-- Reads a loop, without its first word. -/
def readLoop (fuel : Nat) (wanted : Bool) : Read Script := fun tokens =>
  match fuel with
  | 0 => none
  | fuel + 1 => do
    let (condition, rest) ← readList fuel tokens
    let (body, rest) ← readBody fuel rest
    return (.loop wanted condition body, rest)

/-- Reads the body of a loop. -/
def readBody (fuel : Nat) : Read Script := fun tokens =>
  match fuel with
  | 0 => none
  | fuel + 1 => do
    let ((), rest) ← expect "do" tokens
    let (body, rest) ← readList fuel rest
    let ((), rest) ← expect "done" rest
    return (body, rest)

/-- Reads a loop over words, without its first word. -/
def readEach (fuel : Nat) : Read Script := fun tokens =>
  match fuel with
  | 0 => none
  | fuel + 1 => do
    let name ← head? tokens
    let rest := tokens.drop 1
    let (words, rest) := match expect "in" rest with
      | some ((), rest) => readWords rest
      | none => ([[.parameter true "@"]], rest)
    let rest := match rest with
      | .operator ";" :: rest => rest
      | rest => rest
    let (body, rest) ← readBody fuel rest
    return (.each name words body, rest)

/-- Reads the branches of a choice by patterns. -/
def readSelect (fuel : Nat) (subject : Word) : Read Script := fun tokens =>
  match fuel with
  | 0 => none
  | fuel + 1 =>
    let tokens := skipLines tokens
    if head? tokens = some "esac" then some (.skip, tokens.drop 1)
    else do
      let tokens := match tokens with
        | .operator "(" :: rest => rest
        | _ => tokens
      let (patterns, rest) ← readPatterns tokens
      let (body, rest) ← readList fuel rest
      let (otherwise, rest) ← match rest with
        | .operator ";;" :: rest => readSelect fuel subject rest
        | _ => do
          let ((), rest) ← expect "esac" rest
          return (.skip, rest)
      return (.select subject patterns body otherwise, rest)

end

/-- Reads a whole script. -/
def ofText? (text : String) : Option Script := do
  let tokens ← Token.ofText? text
  let (script, rest) ← readList (8 * tokens.length + 8) tokens
  if rest.isEmpty then some script else none

end GoldenBench.Posix.Script
