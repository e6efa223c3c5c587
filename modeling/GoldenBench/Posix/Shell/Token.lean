import GoldenBench.Posix.Shell.Script

/-!
# The tokens of a script

A script is read as words, operators and redirections. A word ends at a blank or at an operator; a `#` where a
word would begin starts a comment.

* `Token.ofText?` reads all tokens; it answers none where a quote is not closed.
-/

namespace GoldenBench.Posix

/-- A token of a script. -/
inductive Token where
  /-- A word, with the line on which it begins. -/
  | word (line : Nat) (word : Word)
  /-- The end of a line. -/
  | newline
  /-- An operator. -/
  | operator (text : String)
  /-- A redirection, but for the word that names its target. -/
  | redirect (make : Word → Option Redirection)

namespace Token

/-- A character that may begin the name of a variable. -/
def beginsName (c : Char) : Bool := c.isAlpha || c == '_'

/-- A character that may go on with the name of a variable. -/
def extendsName (c : Char) : Bool := c.isAlphanum || c == '_'

/-- A character that ends a word. -/
def endsWord (c : Char) : Bool := " \t\n;&|()<>".toList.contains c

/-- Reads to the parenthesis that closes an open one. Parentheses between quotes do not count. -/
def toClosing (depth : Nat) (quote : Option Char) : List Char → Option (List Char × List Char)
  | [] => none
  | c :: rest =>
    match quote, c, depth with
    | none, ')', 0 => some ([], rest)
    | _, _, _ =>
      let depth' := match quote, c with
        | none, '(' => depth + 1
        | none, ')' => depth - 1
        | _, _ => depth
      let quote' := match quote with
        | some q => if c = q then none else quote
        | none => if c = '\'' || c = '"' then some c else none
      (toClosing depth' quote' rest).map fun (inside, after) => (c :: inside, after)

/-- Reads what follows a dollar sign: a parameter or a script. Anything else leaves the dollar sign as it is. -/
def readDollar (quoted : Bool) (text : List Char) : Option (Piece × List Char) :=
  match text with
  | '(' :: rest =>
    match toClosing 0 none rest with
    | some (inside, after) => some (.outputOf quoted (String.ofList inside), after)
    | none => none
  | '{' :: rest =>
    let name := rest.takeWhile (· ≠ '}')
    some (.parameter quoted (String.ofList name), rest.drop (name.length + 1))
  | c :: rest =>
    if c.isDigit || "@*#?".toList.contains c then some (.parameter quoted (String.singleton c), rest)
    else if beginsName c then
      let name := text.takeWhile extendsName
      some (.parameter quoted (String.ofList name), text.drop name.length)
    else some (.text quoted "$", text)
  | [] => some (.text quoted "$", [])

/-- Reads what stands between double quotes, up to and with the closing quote. -/
def readQuoted (fuel : Nat) (text : List Char) : Option (Word × List Char) :=
  match fuel, text with
  | 0, _ => none
  | _, [] => none
  | _, '"' :: rest => some ([], rest)
  | fuel + 1, '\\' :: c :: rest =>
    if c = '\n' then readQuoted fuel rest
    else
      let text := if "$\"\\".toList.contains c || c.toNat = 96 then String.singleton c else String.ofList ['\\', c]
      (readQuoted fuel rest).map fun (pieces, after) => (.text true text :: pieces, after)
  | fuel + 1, '$' :: rest =>
    match readDollar true rest with
    | none => none
    | some (piece, rest) => (readQuoted fuel rest).map fun (pieces, after) => (piece :: pieces, after)
  | fuel + 1, c :: rest =>
    (readQuoted fuel rest).map fun (pieces, after) => (.text true (String.singleton c) :: pieces, after)

/-- Reads a word. -/
def readWord (fuel : Nat) (text : List Char) : Option (Word × List Char) :=
  match fuel, text with
  | 0, _ => none
  | _, [] => some ([], [])
  | fuel + 1, '\'' :: rest =>
    let inside := rest.takeWhile (· ≠ '\'')
    if inside.length = rest.length then none
    else (readWord fuel (rest.drop (inside.length + 1))).map fun (pieces, after) =>
      (.text true (String.ofList inside) :: pieces, after)
  | fuel + 1, '"' :: rest =>
    match readQuoted (rest.length + 1) rest with
    | none => none
    | some (inside, rest) =>
      (readWord fuel rest).map fun (pieces, after) => (.text true "" :: inside ++ pieces, after)
  | fuel + 1, '\\' :: c :: rest =>
    if c = '\n' then readWord fuel rest
    else (readWord fuel rest).map fun (pieces, after) => (.text true (String.singleton c) :: pieces, after)
  | fuel + 1, '$' :: rest =>
    match readDollar false rest with
    | none => none
    | some (piece, rest) => (readWord fuel rest).map fun (pieces, after) => (piece :: pieces, after)
  | fuel + 1, c :: rest =>
    if endsWord c then some ([], c :: rest)
    else (readWord fuel rest).map fun (pieces, after) => (.text false (String.singleton c) :: pieces, after)

/-- A word with neighbouring texts of one kind put together. -/
def joinPieces : Word → Word
  | [] => []
  | .text quoted text :: rest =>
    match joinPieces rest with
    | .text quoted' text' :: rest' =>
      if quoted = quoted' then .text quoted (text ++ text') :: rest'
      else .text quoted text :: .text quoted' text' :: rest'
    | rest' => .text quoted text :: rest'
  | piece :: rest => piece :: joinPieces rest

/-- The stream with a number. -/
def stream? : Nat → Option Stream
  | 0 => some .input
  | 1 => some .output
  | 2 => some .messages
  | _ => none

/-- A redirection of the stream with a number. -/
def redirection (number : Nat) (make : Stream → Word → Option Redirection) : Token :=
  .redirect fun word => (stream? number).bind fun stream => make stream word

/-- A redirection to the stream that a word names by its number. -/
def toNumbered (stream : Stream) (word : Word) : Option Redirection := do
  let text ← Word.bare? word
  return .toStream stream (← stream? (← text.toNat?))

/-- Reads a redirection of a stream given by its number, if one is there. -/
def readRedirection (number : Option Nat) : List Char → Option (Token × List Char)
  | '>' :: '>' :: rest => some (redirection (number.getD 1) fun stream word => some (.toFile stream true word), rest)
  | '>' :: '&' :: rest => some (redirection (number.getD 1) toNumbered, rest)
  | '>' :: rest => some (redirection (number.getD 1) fun stream word => some (.toFile stream false word), rest)
  | '<' :: rest => some (redirection (number.getD 0) fun _ word => some (.fromFile word), rest)
  | _ => none

/-- Reads a redirection, with or without the number of the stream. -/
def readAnyRedirection (text : List Char) : Option (Token × List Char) :=
  match text with
  | c :: rest => if c.isDigit then readRedirection (some (c.toNat - '0'.toNat)) rest else readRedirection none text
  | [] => none

/-- Reads an operator of two characters or of one. -/
def readOperator : List Char → Option (String × List Char)
  | ';' :: ';' :: rest => some (";;", rest)
  | '&' :: '&' :: rest => some ("&&", rest)
  | '|' :: '|' :: rest => some ("||", rest)
  | ';' :: rest => some (";", rest)
  | '&' :: rest => some ("&", rest)
  | '|' :: rest => some ("|", rest)
  | '(' :: rest => some ("(", rest)
  | ')' :: rest => some (")", rest)
  | _ => none

/-- The number of lines that end in a text. -/
def lineEnds (text : List Char) : Nat := text.count '\n'

/-- Reads tokens. -/
def readAll (fuel line : Nat) (text : List Char) : Option (List Token) :=
  match fuel, text with
  | 0, _ => none
  | _, [] => some []
  | fuel + 1, '\n' :: rest => (readAll fuel (line + 1) rest).map (.newline :: ·)
  | fuel + 1, '\\' :: '\n' :: rest => readAll fuel (line + 1) rest
  | fuel + 1, '#' :: rest => readAll fuel line (rest.dropWhile (· ≠ '\n'))
  | fuel + 1, c :: rest =>
    if c = ' ' || c = '\t' then readAll fuel line rest
    else
      match readAnyRedirection text, readOperator text with
      | some (token, rest), _ => (readAll fuel line rest).map (token :: ·)
      | none, some (sign, rest) => (readAll fuel line rest).map (.operator sign :: ·)
      | none, none =>
        match readWord (text.length + 1) text with
        | none => none
        | some (pieces, rest) =>
          let next := line + (lineEnds text - lineEnds rest)
          (readAll fuel next rest).map (.word line (joinPieces pieces) :: ·)

/-- The tokens of a script. -/
def ofText? (text : String) : Option (List Token) :=
  readAll (text.length + 1) 1 text.toList

end Token

end GoldenBench.Posix
