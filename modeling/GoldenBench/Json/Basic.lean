import GoldenBench.Number.Binary

/-!
# JSON documents

A document is a value. Whole numbers between the least signed and the greatest unsigned 64-bit number are kept
exactly; every other number is kept as the bits of a double. The fields of an object have distinct keys and
stand in the order of their keys.

* `Fields.insert` sets a key, `Fields.get?` looks one up, and `get?_insert` ties the two together.
* `Json.depth` is how deep a document nests.
-/

namespace GoldenBench

/-- A JSON value. -/
inductive Json where
  /-- The value `null`. -/
  | null
  /-- A truth value. -/
  | bool (value : Bool)
  /-- A whole number that is kept exactly. -/
  | whole (value : Int)
  /-- Any other number, by the bits of a double. -/
  | real (bits : UInt64)
  /-- A text. -/
  | str (text : String)
  /-- A list of values. -/
  | arr (items : List Json)
  /-- An object, its fields in the order of their keys. -/
  | obj (fields : List (String × Json))
  deriving Inhabited

namespace Json

/-- The fields of an object: distinct keys in increasing order. -/
abbrev Fields := List (String × Json)

/-- Sets a key, in its place by order. -/
def Fields.insert (key : String) (value : Json) : Fields → Fields
  | [] => [(key, value)]
  | (k, v) :: rest =>
    if key = k then (key, value) :: rest
    else if key < k then (key, value) :: (k, v) :: rest
    else (k, v) :: Fields.insert key value rest

/-- The value of a key. -/
def Fields.get? (key : String) : Fields → Option Json
  | [] => none
  | (k, v) :: rest => if key = k then some v else Fields.get? key rest

/-- Sets one key after another; a later value of a key replaces an earlier one. -/
def Fields.insertAll (base : Fields) (overrides : List (String × Json)) : Fields :=
  overrides.foldl (fun fields field => fields.insert field.1 field.2) base

theorem Fields.get?_insert (key k : String) (value : Json) (fields : Fields) :
    (fields.insert k value).get? key = if key = k then some value else fields.get? key := by
  induction fields with
  | nil => simp [Fields.insert, Fields.get?]
  | cons field rest ih =>
    obtain ⟨k', v'⟩ := field
    simp only [Fields.insert]
    split
    · rename_i h
      subst h
      by_cases hk : key = k <;> simp [Fields.get?, hk]
    · split
      · by_cases hk : key = k <;> simp [Fields.get?, hk]
      · by_cases hk' : key = k'
        · subst hk'
          rename_i h _
          simp [Fields.get?, Ne.symm h]
        · simp [Fields.get?, hk', ih]

mutual

/-- How deep a value nests: lists and objects count, what they hold stands one deeper. -/
def depth : Json → Nat
  | .arr items => itemsDepth items + 1
  | .obj fields => fieldsDepth fields + 1
  | _ => 0

/-- The depth of the deepest of several values. -/
def itemsDepth : List Json → Nat
  | [] => 0
  | item :: rest => max (depth item) (itemsDepth rest)

/-- The depth of the deepest value of several fields. -/
def fieldsDepth : List (String × Json) → Nat
  | [] => 0
  | (_, value) :: rest => max (depth value) (fieldsDepth rest)

end

/-- The least whole number that is kept exactly. -/
def leastWhole : Int := -9223372036854775808

/-- The greatest whole number that is kept exactly. -/
def greatestWhole : Int := 18446744073709551615

/-- A whole number that is kept exactly. -/
def isExactWhole (value : Int) : Bool :=
  leastWhole ≤ value && value ≤ greatestWhole

end Json

end GoldenBench
