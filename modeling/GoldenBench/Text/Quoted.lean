import GoldenBench.Text.Table.Extending
import GoldenBench.Text.Table.Printable

/-!
# Quoted texts

A quoted text stands between double quotes. Quotes and backslashes take a backslash; the common controls have
letters; every other character that does not print, or that attaches to the one before it, is written by its
code point.

* `Text.quote` quotes a text; `Text.quotePath` also escapes apostrophes, as quoted paths do.
-/

namespace GoldenBench.Text

/-- A character that stands for itself in a quoted text. -/
def showsAsIs (c : Char) : Bool :=
  if c.toNat < 0x7F then 0x20 ≤ c.toNat
  else Table.printable.contains c && !Table.extending.contains c

/-- A code point in hexadecimal, without leading zeros. -/
def hexOf (n : Nat) : String :=
  String.ofList (Nat.toDigits 16 n)

/-- One character of a quoted text. -/
def quoteChar (escapeApostrophe : Bool) (c : Char) : String :=
  match c with
  | '\x00' => "\\0"
  | '\t' => "\\t"
  | '\n' => "\\n"
  | '\r' => "\\r"
  | '"' => "\\\""
  | '\\' => "\\\\"
  | '\'' => if escapeApostrophe then "\\'" else "'"
  | c => if showsAsIs c then String.singleton c else "\\u\x7b" ++ hexOf c.toNat ++ "\x7d"

/-- A text between double quotes. -/
def quoteWith (escapeApostrophe : Bool) (text : String) : String :=
  "\"" ++ String.join (text.toList.map (quoteChar escapeApostrophe)) ++ "\""

/-- A text between double quotes, with apostrophes as they are. -/
def quote (text : String) : String :=
  quoteWith false text

/-- A path between double quotes; apostrophes take a backslash. -/
def quotePath (text : String) : String :=
  quoteWith true text

end GoldenBench.Text
