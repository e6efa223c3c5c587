/-!
# White space

The characters with the Unicode property `White_Space`, and the trimming that goes with them.

* `Text.isBlank` decides the property.
* `Text.trimStart` and `Text.trimEnd` drop blanks at the start and at the end.
-/

namespace GoldenBench.Text

/-- The Unicode property `White_Space`. -/
def isBlank (c : Char) : Bool :=
  let n := c.toNat
  (9 ≤ n && n ≤ 13) || n == 0x20 || n == 0x85 || n == 0xA0 || n == 0x1680 || (0x2000 ≤ n && n ≤ 0x200A) ||
    n == 0x2028 || n == 0x2029 || n == 0x202F || n == 0x205F || n == 0x3000

/-- A text without the blanks at its start. -/
def trimStart (text : List Char) : List Char :=
  text.dropWhile isBlank

/-- A text without the blanks at its end. -/
def trimEnd (text : List Char) : List Char :=
  (text.reverse.dropWhile isBlank).reverse

/-- A text that holds blanks only. -/
def isAllBlank (text : List Char) : Bool :=
  text.all isBlank

end GoldenBench.Text
