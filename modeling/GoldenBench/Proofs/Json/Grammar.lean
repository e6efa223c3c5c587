import GoldenBench.Proofs.Json.Numeral
import GoldenBench.Proofs.Json.Quoted

/-!
# The texts of documents

What a document may be written as (`Spelt`), by recursion on the document: the members of an object stand in the order
of the text, and keys may be repeated. What is written so stands for the document in which every object has the last
value of each key, in the order of the keys (`meaning`).

* `Spelt`, and `IsText` for a whole text with blanks around the document.
* `exists_skipBlanks` and `skipBlanks_append`: what the reader makes of blanks.
-/

namespace GoldenBench.Json

/-! ## What is written -/

/-- A blank. -/
def isBlank (c : Char) : Bool :=
  c == ' ' || c == '\n' || c == '\t' || c == '\r'

/-- Blanks and nothing else. -/
def Blank (text : List Char) : Prop :=
  ∀ c ∈ text, isBlank c

/-- A text that does not begin with a blank. -/
def NoBlank (text : List Char) : Prop :=
  ∀ c ∈ text.head?, ¬isBlank c

/-- Several things as they are written after another one, each after a comma. -/
def Continued : List (List Char → Prop) → List Char → Prop
  | [], text => Blank text
  | form :: forms, text => ∃ gap before core after, Blank gap ∧ Blank before ∧ form core ∧ Continued forms after ∧
      text = gap ++ ',' :: (before ++ (core ++ after))

/-- Several things as they are written, with commas between them. -/
def Separated : List (List Char → Prop) → List Char → Prop
  | [], text => Blank text
  | form :: forms, text => ∃ before core after, Blank before ∧ form core ∧ Continued forms after ∧
      text = before ++ (core ++ after)

/-- A key and a value as they are written. -/
def IsMember (key : String) (form : List Char → Prop) (text : List Char) : Prop :=
  ∃ name gap before core, IsQuoted key name ∧ Blank gap ∧ Blank before ∧ form core ∧
    text = name ++ (gap ++ ':' :: (before ++ core))

/-- Several things as they are written, the first of them after a comma unless it is the `first` of all. -/
def Listed (first : Bool) (forms : List (List Char → Prop)) (text : List Char) : Prop :=
  if first then Separated forms text else Continued forms text

mutual

/-- What a document may be written as, without blanks around it. -/
def Spelt : Json → List Char → Prop
  | .null, text => text = "null".toList
  | .bool true, text => text = "true".toList
  | .bool false, text => text = "false".toList
  | .whole value, text => ∃ numeral : Numeral, text = numeral.text ∧ numeral.value? = some (.whole value)
  | .real bits, text => ∃ numeral : Numeral, text = numeral.text ∧ numeral.value? = some (.real bits)
  | .str value, text => IsQuoted value text
  | .arr items, text => ∃ inner, text = '[' :: (inner ++ [']']) ∧ Separated (itemForms items) inner
  | .obj members, text => ∃ inner, text = '{' :: (inner ++ ['}']) ∧ Separated (memberForms members) inner

/-- What each of several values may be written as. -/
def itemForms : List Json → List (List Char → Prop)
  | [] => []
  | item :: rest => Spelt item :: itemForms rest

/-- What each of several members may be written as. -/
def memberForms : List (String × Json) → List (List Char → Prop)
  | [] => []
  | (key, value) :: rest => IsMember key (Spelt value) :: memberForms rest

end

mutual

/-- What a document as written stands for. -/
def meaning : Json → Json
  | .arr items => .arr (itemMeanings items)
  | .obj members => .obj (Fields.insertAll [] (memberMeanings members))
  | document => document

/-- What each of several values stands for. -/
def itemMeanings : List Json → List Json
  | [] => []
  | item :: rest => meaning item :: itemMeanings rest

/-- What the value of each of several members stands for. -/
def memberMeanings : List (String × Json) → List (String × Json)
  | [] => []
  | (key, value) :: rest => (key, meaning value) :: memberMeanings rest

end

theorem memberMeanings_eq_map (members : List (String × Json)) :
    memberMeanings members = members.map fun member => (member.1, member.2.meaning) := by
  induction members with
  | nil => rfl
  | cons member members ih =>
    rw [memberMeanings, List.map_cons, ih]

/-- A text that is a document as written, with blanks around it, and does not nest too deep. -/
def IsText (document : Json) (text : List Char) : Prop :=
  document.depth < depthLimit ∧ ∃ before core after, Blank before ∧ document.Spelt core ∧ Blank after ∧
    text = before ++ (core ++ after)

/-! ## Blanks and commas -/

variable {text more : List Char}

@[simp]
theorem Cursor.rest_past (cursor : Cursor) (c : Char) (rest : List Char) : (cursor.past c rest).rest = rest := rfl

theorem exists_skipBlanks (cursor : Cursor) :
    ∃ before, Blank before ∧ NoBlank cursor.skipBlanks.rest ∧ cursor.rest = before ++ cursor.skipBlanks.rest := by
  obtain ⟨before, more, hrest, hbefore, hmore⟩ := exists_front isBlank cursor.rest
  have hskip : cursor.skipBlanks.rest = more := by
    show cursor.rest.drop (cursor.rest.takeWhile isBlank).length = more
    rw [hrest, takeWhile_front hbefore hmore, List.drop_left]
  exact ⟨before, hbefore, hskip ▸ hmore, hskip ▸ hrest⟩

theorem blank_nil : Blank [] := fun _ hc => absurd hc List.not_mem_nil

theorem Blank.append {front : List Char} (hfront : Blank front) (htext : Blank text) : Blank (front ++ text) :=
  fun c hc => (List.mem_append.mp hc).elim (hfront c) (htext c)

theorem Separated.blank_append {forms : List (List Char → Prop)} (h : Separated forms text) {front : List Char}
    (hfront : Blank front) : Separated forms (front ++ text) := by
  cases forms with
  | nil => exact hfront.append h
  | cons form forms =>
    obtain ⟨before, core, after, hbefore, hcore, hafter, rfl⟩ := h
    exact ⟨front ++ before, core, after, hfront.append hbefore, hcore, hafter, (List.append_assoc ..).symm⟩

theorem listed_nil (h : Blank text) (first : Bool) : Listed first [] text := by
  cases first with
  | false => exact h
  | true => exact h

theorem Separated.continued {form : List Char → Prop} {forms : List (List Char → Prop)}
    (h : Separated (form :: forms) text) {gap : List Char} (hgap : Blank gap) :
    Continued (form :: forms) (gap ++ ',' :: text) := by
  obtain ⟨before, core, after, hbefore, hcore, hafter, rfl⟩ := h
  exact ⟨gap, before, core, after, hgap, hbefore, hcore, hafter, rfl⟩

theorem skipBlanks_append {before : List Char} (h : Blank before) (hmore : NoBlank more) (column : Nat) :
    Cursor.skipBlanks ⟨before ++ more, column⟩ = ⟨more, column + before.length⟩ := by
  show Cursor.mk ((before ++ more).drop ((before ++ more).takeWhile isBlank).length)
    (column + ((before ++ more).takeWhile isBlank).length) = _
  rw [takeWhile_front h hmore, List.drop_left]

end GoldenBench.Json
