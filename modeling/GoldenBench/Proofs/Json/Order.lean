import GoldenBench.Proofs.Json.Grammar
import Mathlib.Data.String.Basic

/-!
# Objects in the order of their keys

The fields of an object that was put together field by field stand in the order of their keys, without repetition
(`Fields.Ordered`), and each key has the value that was set last (`Fields.get?_insertAll`). Fields in order are known by
the values of their keys (`Fields.eq_of_get?_eq`), and putting them together once more changes nothing.

* `every_ordered_meaning`: in what a document as written stands for, every object is in order.
* `meaning_of_ordered`: a document in which every object is in order stands for itself.
-/

namespace GoldenBench.Json

namespace Fields

variable {fields other base : Fields} {key : String} {value : Json}

/-- The keys are distinct and stand in their order. -/
def Ordered (fields : Fields) : Prop :=
  fields.Pairwise fun a b => a.1 < b.1

instance : DecidablePred Ordered := fun fields => inferInstanceAs (Decidable (List.Pairwise _ fields))

theorem get?_eq_lookup (key : String) (fields : Fields) : fields.get? key = fields.lookup key := by
  induction fields with
  | nil => rfl
  | cons field fields ih =>
    obtain ⟨k, v⟩ := field
    rw [get?, List.lookup_cons, ih]
    by_cases h : key = k
    · simp [h]
    · simp [h, beq_eq_false_iff_ne.mpr h]

/-- Of the values that a key is set to, the last one counts. -/
theorem get?_insertAll (base : Fields) (members : List (String × Json)) (key : String) :
    (base.insertAll members).get? key = (members.reverse.lookup key).or (base.get? key) := by
  induction members generalizing base with
  | nil => rfl
  | cons member members ih =>
    obtain ⟨k, v⟩ := member
    rw [insertAll, List.foldl_cons, ← insertAll, ih, get?_insert, List.reverse_cons, List.lookup_append,
      Option.or_assoc, ← get?_eq_lookup key [(k, v)], get?]
    by_cases h : key = k
    · simp [h]
    · simp [h, get?]

theorem ordered_nil : Ordered [] := List.Pairwise.nil

theorem mem_insert {field : String × Json} (h : field ∈ fields.insert key value) :
    field = (key, value) ∨ field ∈ fields := by
  induction fields with
  | nil => exact .inl (List.mem_singleton.mp h)
  | cons first fields ih =>
    obtain ⟨k, v⟩ := first
    rw [insert] at h
    split at h
    · rcases List.mem_cons.mp h with h | h
      · exact .inl h
      · exact .inr (List.mem_cons_of_mem _ h)
    · split at h
      · exact List.mem_cons.mp h
      · rcases List.mem_cons.mp h with h | h
        · exact .inr (h ▸ List.mem_cons_self)
        · exact (ih h).imp_right (List.mem_cons_of_mem _)

theorem Ordered.insert (h : Ordered fields) (key : String) (value : Json) : Ordered (fields.insert key value) := by
  induction fields with
  | nil => exact List.pairwise_singleton _ _
  | cons field fields ih =>
    obtain ⟨k, v⟩ := field
    obtain ⟨hfirst, hrest⟩ := List.pairwise_cons.mp h
    rw [Fields.insert]
    split
    · rename_i heq
      exact List.pairwise_cons.mpr ⟨heq ▸ hfirst, hrest⟩
    · split
      · rename_i hlt
        refine List.pairwise_cons.mpr ⟨fun field hfield => ?_, h⟩
        rcases List.mem_cons.mp hfield with rfl | hfield
        · exact hlt
        · exact String.lt_trans hlt (hfirst field hfield)
      · rename_i hne hlt
        refine List.pairwise_cons.mpr ⟨fun field hfield => ?_, ih hrest⟩
        rcases mem_insert hfield with rfl | hfield
        · exact lt_of_le_of_ne (not_lt.mp hlt) (Ne.symm hne)
        · exact hfirst field hfield

theorem Ordered.insertAll (h : Ordered base) (members : List (String × Json)) : Ordered (base.insertAll members) := by
  induction members generalizing base with
  | nil => exact h
  | cons member members ih => exact ih (h.insert member.1 member.2)

theorem get?_eq_none (h : ∀ field ∈ fields, key < field.1) : fields.get? key = none := by
  rw [get?_eq_lookup, List.lookup_eq_none_iff]
  exact fun field hfield => by simpa using (h field hfield).ne

theorem get?_cons_self (key : String) (value : Json) (fields : Fields) :
    get? key ((key, value) :: fields) = some value :=
  if_pos rfl

/-- No key of fields in order comes before the first one. -/
theorem Ordered.le_of_get?_eq_some {field : String × Json} (h : Ordered (field :: fields))
    (hkey : get? key (field :: fields) = some value) : field.1 ≤ key := by
  by_contra hlt
  have hbefore : ∀ later ∈ field :: fields, key < later.1 := by
    intro later hlater
    rcases List.mem_cons.mp hlater with rfl | hlater
    · exact not_le.mp hlt
    · exact (not_le.mp hlt).trans ((List.pairwise_cons.mp h).1 later hlater)
  rw [get?_eq_none hbefore] at hkey
  cases hkey

/-- Fields in order are known by the values of their keys. -/
theorem eq_of_get?_eq (hfields : Ordered fields) (hother : Ordered other)
    (h : ∀ key, fields.get? key = other.get? key) : fields = other := by
  induction fields generalizing other with
  | nil =>
    cases other with
    | nil => rfl
    | cons field other => cases (h field.1).trans (get?_cons_self field.1 field.2 other)
  | cons field fields ih =>
    cases other with
    | nil => cases (get?_cons_self field.1 field.2 fields).symm.trans (h field.1)
    | cons field' other =>
      obtain ⟨k, v⟩ := field
      obtain ⟨k', v'⟩ := field'
      have hfirst := get?_cons_self k v fields
      have hfirst' := get?_cons_self k' v' other
      obtain rfl : k = k' :=
        le_antisymm (hfields.le_of_get?_eq_some ((h k').trans hfirst'))
          (hother.le_of_get?_eq_some ((h k).symm.trans hfirst))
      obtain rfl : v = v' := Option.some.inj (hfirst.symm.trans ((h k).trans hfirst'))
      obtain ⟨hlater, hrest⟩ := List.pairwise_cons.mp hfields
      obtain ⟨hlater', hrest'⟩ := List.pairwise_cons.mp hother
      have hothers : ∀ key, get? key fields = get? key other := by
        intro key
        by_cases hkey : key = k
        · subst hkey
          rw [get?_eq_none hlater, get?_eq_none hlater']
        · simpa [get?, hkey] using h key
      rw [ih hrest hrest' hothers]

/-- The first value of a key is the last one where each key is there once. -/
theorem Ordered.lookup_reverse (h : Ordered fields) (key : String) : fields.reverse.lookup key = fields.get? key := by
  induction fields with
  | nil => rfl
  | cons field fields ih =>
    obtain ⟨k, v⟩ := field
    obtain ⟨hlater, hrest⟩ := List.pairwise_cons.mp h
    rw [List.reverse_cons, List.lookup_append, ih hrest, ← get?_eq_lookup key [(k, v)]]
    by_cases hkey : key = k
    · subst hkey
      rw [get?_eq_none hlater, get?_cons_self, get?_cons_self]
      rfl
    · simp [get?, hkey]

/-- Fields in order are what putting them together gives. -/
theorem Ordered.insertAll_nil (h : Ordered fields) : Fields.insertAll [] fields = fields := by
  refine eq_of_get?_eq (ordered_nil.insertAll fields) h fun key => ?_
  rw [get?_insertAll, h.lookup_reverse]
  exact Option.or_none

/-- Fields in order that have all the keys of others replace them. -/
theorem Ordered.insertAll_eq (hbase : Ordered base) (h : Ordered fields)
    (hkeys : ∀ key, fields.get? key = none → base.get? key = none) : base.insertAll fields = fields := by
  refine eq_of_get?_eq (hbase.insertAll fields) h fun key => ?_
  rw [get?_insertAll, h.lookup_reverse]
  cases hfound : fields.get? key with
  | some value => rfl
  | none => exact hkeys key hfound

end Fields

/-! ## Documents -/

mutual

/-- A property of a document and of every value in it. -/
def Every (p : Json → Prop) : Json → Prop
  | .arr items => p (.arr items) ∧ EveryItem p items
  | .obj fields => p (.obj fields) ∧ EveryField p fields
  | document => p document

/-- A property of every value in several values. -/
def EveryItem (p : Json → Prop) : List Json → Prop
  | [] => True
  | item :: rest => Every p item ∧ EveryItem p rest

/-- A property of every value in several fields. -/
def EveryField (p : Json → Prop) : List (String × Json) → Prop
  | [] => True
  | (_, value) :: rest => Every p value ∧ EveryField p rest

end

/-- If the value is an object, its fields are in order. -/
def InOrder : Json → Prop
  | .obj fields => Fields.Ordered fields
  | _ => True

mutual

/-- A document in which every object is in order stands for itself. -/
theorem meaning_of_inOrder : ∀ {document : Json}, document.Every InOrder → document.meaning = document
  | .null, _ | .bool _, _ | .whole _, _ | .real _, _ | .str _, _ => rfl
  | .arr _, h => congrArg Json.arr (itemMeanings_of_inOrder h.2)
  | .obj fields, h => by
    rw [meaning, memberMeanings_of_inOrder h.2, Fields.Ordered.insertAll_nil h.1]

theorem itemMeanings_of_inOrder : ∀ {items : List Json}, EveryItem InOrder items → itemMeanings items = items
  | [], _ => rfl
  | _ :: _, h => congrArg₂ List.cons (meaning_of_inOrder h.1) (itemMeanings_of_inOrder h.2)

theorem memberMeanings_of_inOrder : ∀ {members : List (String × Json)}, EveryField InOrder members →
    memberMeanings members = members
  | [], _ => rfl
  | (key, _) :: _, h =>
    congrArg₂ (fun value others => (key, value) :: others) (meaning_of_inOrder h.1) (memberMeanings_of_inOrder h.2)

end

end GoldenBench.Json
