import GoldenBench.Text.Table.Word

/-!
# Words

* `Text.isWordChar` decides whether a character may stand in a word: of ASCII the letters, the digits and the
  underscore, beyond it what `Table.word` lists.
* `Text.endsWord` says whether a word that ends here may end: what follows is not a word character.
-/

namespace GoldenBench.Text

/-- A character that may stand in a word. -/
def isWordChar (c : Char) : Bool :=
  if c.toNat < 0x80 then c.isAlphanum || c == '_' else Table.word.contains c

/-- A word ends before this text. -/
def endsWord : List Char → Bool
  | [] => true
  | c :: _ => !isWordChar c

end GoldenBench.Text
