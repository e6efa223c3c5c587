/-!
# Scripts

A script is a tree of commands. A command is made of words, and a word of pieces: plain text, the value of a
parameter, or the output of another script. What stands between quotes is kept together and taken as it is.
-/

namespace GoldenBench.Posix

/-- A piece of a word. -/
inductive Piece where
  /-- Text. -/
  | text (quoted : Bool) (text : String)
  /-- The value of a parameter. -/
  | parameter (quoted : Bool) (name : String)
  /-- The output of a script. -/
  | outputOf (quoted : Bool) (script : String)
  deriving DecidableEq

/-- A word. -/
abbrev Word := List Piece

/-- The text of a word that is nothing but text without quotes. -/
def Word.bare? : Word → Option String
  | [.text false text] => some text
  | _ => none

/-- The streams of a command. -/
inductive Stream where
  /-- What it reads. -/
  | input
  /-- What it writes. -/
  | output
  /-- What it writes as messages. -/
  | messages
  deriving DecidableEq

/-- Where a stream of a command leads instead. -/
inductive Redirection where
  /-- To a file, at its end on request. -/
  | toFile (stream : Stream) (append : Bool) (target : Word)
  /-- From a file. -/
  | fromFile (source : Word)
  /-- To where another stream leads. -/
  | toStream (stream target : Stream)

/-- A script. -/
inductive Script where
  /-- Nothing. -/
  | skip
  /-- A command: variables to set, words, redirections, and the line on which it stands. -/
  | command (line : Nat) (settings : List (String × Word)) (words : List Word) (redirections : List Redirection)
  /-- One after another. -/
  | sequence (first second : Script)
  /-- The second if the first succeeds. -/
  | and (first second : Script)
  /-- The second if the first fails. -/
  | or (first second : Script)
  /-- Success for failure and failure for success. -/
  | not (script : Script)
  /-- The second reads what the first writes. -/
  | pipe (first second : Script)
  /-- A choice by a condition. -/
  | branch (condition yes no : Script)
  /-- Repeats a body as long as a condition succeeds, or fails. -/
  | loop (wanted : Bool) (condition body : Script)
  /-- Repeats a body for each word. -/
  | each (name : String) (words : List Word) (body : Script)
  /-- A body if a word is like one of several patterns, or something else. -/
  | select (subject : Word) (patterns : List Word) (body otherwise : Script)
  /-- A script with redirections. -/
  | group (body : Script) (line : Nat) (redirections : List Redirection)
  /-- A script that changes nothing but files. -/
  | apart (body : Script)

end GoldenBench.Posix
