import GoldenBench.Json.Basic
import GoldenBench.Number.Text

/-!
# JSON documents as texts

A document is written on one line without blanks. In a text, quotes, backslashes and control characters are
escaped and nothing else.

* `Json.render` writes a document, character by character; `Json.compact` is its text.
-/

namespace GoldenBench.Json

/-- A digit of a hexadecimal number below sixteen. -/
def hexDigit (n : Nat) : Char :=
  if n < 10 then Char.ofNat (n + 48) else Char.ofNat (n + 87)

/-- One character between the quotes of a text. -/
def renderChar (c : Char) : List Char :=
  match c with
  | '"' => ['\\', '"']
  | '\\' => ['\\', '\\']
  | '\x08' => ['\\', 'b']
  | '\x0c' => ['\\', 'f']
  | '\n' => ['\\', 'n']
  | '\r' => ['\\', 'r']
  | '\t' => ['\\', 't']
  | c => if c.toNat < 0x20 then ['\\', 'u', '0', '0', hexDigit (c.toNat / 16), hexDigit (c.toNat % 16)] else [c]

/-- A text between quotes. -/
def renderText (text : List Char) : List Char :=
  '"' :: text.flatMap renderChar ++ ['"']

/-- A whole number in decimal. -/
def renderWhole (value : Int) : List Char :=
  if value < 0 then '-' :: Nat.toDigits 10 value.natAbs else Nat.toDigits 10 value.natAbs

mutual

/-- The text of a document. -/
def render : Json → List Char
  | .null => "null".toList
  | .bool true => "true".toList
  | .bool false => "false".toList
  | .whole value => renderWhole value
  | .real bits => (Number.write .double .document bits.toNat).toList
  | .str text => renderText text.toList
  | .arr items => '[' :: renderItems items ++ [']']
  | .obj fields => '{' :: renderFields fields ++ ['}']

/-- The texts of values with commas between them. -/
def renderItems : List Json → List Char
  | [] => []
  | [item] => render item
  | item :: rest => render item ++ ',' :: renderItems rest

/-- The texts of fields with commas between them. -/
def renderFields : List (String × Json) → List Char
  | [] => []
  | [(key, value)] => renderText key.toList ++ ':' :: render value
  | (key, value) :: rest => renderText key.toList ++ ':' :: render value ++ ',' :: renderFields rest

end

/-- The text of a document. -/
def compact (document : Json) : String :=
  String.ofList document.render

end GoldenBench.Json
