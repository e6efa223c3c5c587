/-!
# Canonical module texts

What is compared of a module's text is its export surface: everything from the first line that begins, after
spaces and tabs, with `(export`, without the closing parenthesis of the module. A text without such a line, or
whose first line is one, is canonical as it stands.

* `Canonical.ofText` gives the canonical form.
-/

namespace GoldenBench.Canonical

/-- How an export begins. -/
def opening : List Char := "(export".toList

/-- A space or a tab. -/
def isGap (c : Char) : Bool := c == ' ' || c == '\t'

/-- A text that begins, after spaces and tabs, with an export. -/
def startsExport (text : List Char) : Bool :=
  opening.isPrefixOf (text.dropWhile isGap)

/-- The text from its first export line on, as seen at the start of a line (`atStart`) or inside one. -/
def exportTail? (atStart : Bool) : List Char → Option (List Char)
  | [] => none
  | c :: rest =>
    if atStart && startsExport (c :: rest) then some (c :: rest) else exportTail? (c == '\n') rest

/-- The text without the parenthesis that closes it and the line ending after that, if it ends so. -/
def dropClosing (text : List Char) : List Char :=
  match text.reverse with
  | ')' :: rest => rest.reverse
  | '\n' :: ')' :: rest => rest.reverse
  | '\r' :: ')' :: rest => rest.reverse
  | '\n' :: '\r' :: ')' :: rest => rest.reverse
  | _ => text

/-- The canonical form of a text. -/
def ofChars (text : List Char) : List Char :=
  if startsExport text then text
  else
    match exportTail? true text with
    | none => text
    | some tail => dropClosing tail

/-- The canonical form of a text. -/
def ofText (text : String) : String :=
  String.ofList (ofChars text.toList)

end GoldenBench.Canonical
