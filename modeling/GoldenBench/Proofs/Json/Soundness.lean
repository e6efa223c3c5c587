import GoldenBench.Proofs.Json.Grammar

/-!
# What the reader of documents accepts

Whatever the reader accepts is a document as written, and what it gives is what that document stands for. Each of the
three readers is treated on its own, as far as those that it calls with less fuel are sound, and `sound` ties them
together.
-/

namespace GoldenBench.Json

variable {fuel depth : Nat} {cursor next : Cursor} {value document : Json} {text more : List Char}

theorem rest_of_readName {name : List Char} (h : readName cursor name = .ok next) :
    cursor.rest = name ++ next.rest := by
  induction name generalizing cursor with
  | nil =>
    cases h
    rfl
  | cons expected name ih =>
    unfold readName at h
    split at h
    · cases h
    · rename_i c rest hrest
      split at h
      · rename_i hc
        rw [hrest, hc, show rest = _ from ih h]
        rfl
      · cases h

theorem exists_of_readColon (h : readColon cursor = .ok next) :
    ∃ gap, Blank gap ∧ cursor.rest = gap ++ ':' :: next.rest := by
  obtain ⟨gap, hgap, -, hrest⟩ := exists_skipBlanks cursor
  rw [readColon] at h
  split at h
  · cases h
  · rename_i c rest hcolon
    split at h
    · rename_i hc
      cases h
      exact ⟨gap, hgap, by rw [hrest, hcolon, hc]; rfl⟩
    · cases h

/-- With so much fuel, whatever is read as a value is a value as written. -/
def ValuesSound (fuel : Nat) : Prop :=
  ∀ {depth : Nat} {cursor next : Cursor} {value : Json}, 0 < depth → readValue fuel depth cursor = .ok (value, next) →
    ∃ (document : Json) (before core : List Char), document.depth < depth ∧ Blank before ∧ document.Spelt core ∧
      cursor.rest = before ++ (core ++ next.rest) ∧ document.meaning = value

/-- With so much fuel, whatever is read as the values of a list are values as written. -/
def ItemsSound (fuel : Nat) : Prop :=
  ∀ {depth : Nat} {first : Bool} {cursor next : Cursor} {items : List Json}, 0 < depth →
    readItems fuel depth first cursor = .ok (items, next) →
    ∃ (documents : List Json) (text : List Char), itemsDepth documents < depth ∧
      Listed first (itemForms documents) text ∧
      cursor.rest = text ++ ']' :: next.rest ∧ itemMeanings documents = items

/-- With so much fuel, whatever is read as the fields of an object are members as written. -/
def MembersSound (fuel : Nat) : Prop :=
  ∀ {depth : Nat} {first : Bool} {fields result : Fields} {cursor next : Cursor}, 0 < depth →
    readFields fuel depth first fields cursor = .ok (result, next) →
    ∃ (members : List (String × Json)) (text : List Char), fieldsDepth members < depth ∧
      Listed first (memberForms members) text ∧
      cursor.rest = text ++ '}' :: next.rest ∧ fields.insertAll (memberMeanings members) = result

/-- A number is what a document may be written as. -/
theorem Numeral.spelt {numeral : Numeral} (h : numeral.value? = some value) :
    value.Spelt numeral.text ∧ value.depth = 0 ∧ value.meaning = value := by
  rcases value?_eq_some h with ⟨n, rfl⟩ | ⟨bits, rfl⟩
  · exact ⟨⟨numeral, rfl, h⟩, rfl, rfl⟩
  · exact ⟨⟨numeral, rfl, h⟩, rfl, rfl⟩

theorem valuesSound_succ (hitems : ItemsSound fuel) (hmembers : MembersSound fuel) : ValuesSound (fuel + 1) := by
  intro depth cursor next value hdepth h
  obtain ⟨before, hbefore, -, hrest⟩ := exists_skipBlanks cursor
  suffices hcore : ∃ (document : Json) (core : List Char), document.depth < depth ∧ document.Spelt core ∧
      cursor.skipBlanks.rest = core ++ next.rest ∧ document.meaning = value by
    obtain ⟨document, core, hlevels, hspelt, hhere, hmeaning⟩ := hcore
    exact ⟨document, before, core, hlevels, hbefore, hspelt, hhere ▸ hrest, hmeaning⟩
  unfold readValue at h
  dsimp only at h
  split at h
  · cases h
  · cases h
  · rename_i fuel' c rest heq hhere
    cases heq
    rw [hhere]
    split at h
    · obtain ⟨after, hname, h⟩ := exists_of_bind h
      cases h
      exact ⟨.null, _, hdepth, rfl, congrArg ('n' :: ·) (rest_of_readName hname), rfl⟩
    · obtain ⟨after, hname, h⟩ := exists_of_bind h
      cases h
      exact ⟨.bool true, _, hdepth, rfl, congrArg ('t' :: ·) (rest_of_readName hname), rfl⟩
    · obtain ⟨after, hname, h⟩ := exists_of_bind h
      cases h
      exact ⟨.bool false, _, hdepth, rfl, congrArg ('f' :: ·) (rest_of_readName hname), rfl⟩
    · obtain ⟨⟨text, after⟩, hquoted, h⟩ := exists_of_bind h
      cases h
      obtain ⟨inner, htext, hinner⟩ := exists_of_readQuoted hquoted
      exact ⟨.str text, _, hdepth, ⟨inner, rfl, htext⟩, by simpa using hinner, rfl⟩
    · split at h
      · cases h
      · obtain ⟨⟨items, after⟩, hread, h⟩ := exists_of_bind h
        cases h
        obtain ⟨documents, inner, hlevels, hforms, hinner, rfl⟩ := hitems (by omega) hread
        exact ⟨.arr documents, _, by rw [Json.depth]; omega, ⟨inner, rfl, hforms⟩, by simpa using hinner, rfl⟩
    · split at h
      · cases h
      · obtain ⟨⟨fields, after⟩, hread, h⟩ := exists_of_bind h
        cases h
        obtain ⟨members, inner, hlevels, hforms, hinner, rfl⟩ := hmembers (by omega) hread
        exact ⟨.obj members, _, by rw [Json.depth]; omega, ⟨inner, rfl, hforms⟩, by simpa using hinner, rfl⟩
    · obtain ⟨numeral, hsign, htext, hvalue⟩ := exists_numeral h
      obtain ⟨hspelt, hleaf, hmeaning⟩ := Numeral.spelt hvalue
      refine ⟨value, _, hleaf ▸ hdepth, hspelt, ?_, hmeaning⟩
      rw [Numeral.text, hsign, if_neg Bool.false_ne_true]
      exact congrArg ('-' :: ·) htext
    · split at h
      · obtain ⟨numeral, hsign, htext, hvalue⟩ := exists_numeral h
        obtain ⟨hspelt, hleaf, hmeaning⟩ := Numeral.spelt hvalue
        refine ⟨value, _, hleaf ▸ hdepth, hspelt, ?_, hmeaning⟩
        rw [Numeral.text, hsign, if_pos rfl, ← hhere]
        exact htext
      · cases h

/-- A value and the values after it. -/
theorem exists_of_readItem (hvalues : ValuesSound fuel) (hitems : ItemsSound fuel) (hdepth : 0 < depth)
    {items : List Json}
    (h : (do
      let (item, cursor) ← readValue fuel depth cursor
      let (items, cursor) ← readItems fuel depth false cursor
      return (item :: items, cursor)) = Except.ok (items, next)) :
    ∃ (document : Json) (documents : List Json) (text : List Char), itemsDepth (document :: documents) < depth ∧
      Separated (itemForms (document :: documents)) text ∧ cursor.rest = text ++ ']' :: next.rest ∧
      itemMeanings (document :: documents) = items := by
  obtain ⟨⟨item, afterItem⟩, hvalue, h⟩ := exists_of_bind h
  obtain ⟨⟨others, afterOthers⟩, hothers, h⟩ := exists_of_bind h
  cases h
  obtain ⟨document, before, core, hlevels, hbefore, hspelt, hhere, rfl⟩ := hvalues hdepth hvalue
  obtain ⟨documents, after, hlevels', hforms, hafter, rfl⟩ := hitems hdepth hothers
  refine ⟨document, documents, before ++ (core ++ after), ?_, ⟨before, core, after, hbefore, hspelt, hforms, rfl⟩, ?_,
    rfl⟩
  · rw [itemsDepth]
    exact Nat.max_lt.mpr ⟨hlevels, hlevels'⟩
  · rw [hhere, hafter]
    simp only [List.append_assoc]

theorem itemsSound_succ (hvalues : ValuesSound fuel) (hitems : ItemsSound fuel) : ItemsSound (fuel + 1) := by
  intro depth first cursor next items hdepth h
  obtain ⟨blank, hblank, -, hrest⟩ := exists_skipBlanks cursor
  rw [hrest]
  unfold readItems at h
  dsimp only at h
  split at h
  · cases h
  · cases h
  · rename_i fuel' c rest heq hhere
    cases heq
    rw [hhere]
    split at h
    · rename_i hc
      cases h
      exact ⟨[], blank, hdepth, listed_nil hblank first, by rw [hc]; rfl, rfl⟩
    · split at h
      · obtain ⟨document, documents, text, hlevels, hforms, htext, hmeaning⟩ :=
          exists_of_readItem hvalues hitems hdepth h
        rename_i hfirst
        refine ⟨document :: documents, blank ++ text, hlevels, ?_, ?_, hmeaning⟩
        · rw [Listed, if_pos hfirst]
          exact hforms.blank_append hblank
        · rw [← hhere, htext, List.append_assoc]
      · split at h
        · rename_i hfirst hc
          obtain ⟨blank', hblank', -, hrest'⟩ := exists_skipBlanks (cursor.skipBlanks.past c rest)
          split at h
          · cases h
          · split at h
            · cases h
            · obtain ⟨document, documents, text, hlevels, hforms, htext, hmeaning⟩ :=
                exists_of_readItem hvalues hitems hdepth h
              refine ⟨document :: documents, blank ++ ',' :: (blank' ++ text), hlevels, ?_, ?_, hmeaning⟩
              · rw [Listed, if_neg hfirst]
                exact (hforms.blank_append hblank').continued hblank
              · rw [hc, show rest = _ from hrest', htext]
                simp only [List.append_assoc, List.cons_append]
        · cases h

/-- A member and the members after it. -/
theorem exists_of_readMember (hvalues : ValuesSound fuel) (hmembers : MembersSound fuel) (hdepth : 0 < depth)
    {fields result : Fields}
    (h : (do
      let (key, cursor) ← readQuoted cursor
      let cursor ← readColon cursor
      let (value, cursor) ← readValue fuel depth cursor
      readFields fuel depth false (fields.insert key value) cursor) = Except.ok (result, next)) :
    ∃ (member : String × Json) (members : List (String × Json)) (text : List Char),
      fieldsDepth (member :: members) < depth ∧ Separated (memberForms (member :: members)) text ∧
      '"' :: cursor.rest = text ++ '}' :: next.rest ∧
      fields.insertAll (memberMeanings (member :: members)) = result := by
  obtain ⟨⟨key, afterKey⟩, hkey, h⟩ := exists_of_bind h
  obtain ⟨afterColon, hcolon, h⟩ := exists_of_bind h
  obtain ⟨⟨value, afterValue⟩, hvalue, h⟩ := exists_of_bind h
  obtain ⟨inner, hinner, hname⟩ := exists_of_readQuoted hkey
  obtain ⟨gap, hgap, hgaprest⟩ := exists_of_readColon hcolon
  obtain ⟨document, before, core, hlevels, hbefore, hspelt, hhere, rfl⟩ := hvalues hdepth hvalue
  obtain ⟨members, after, hlevels', hforms, hafter, rfl⟩ := hmembers hdepth h
  have hmember : IsMember key document.Spelt ('"' :: (inner ++ ['"']) ++ (gap ++ ':' :: (before ++ core))) :=
    ⟨_, gap, before, core, ⟨inner, rfl, hinner⟩, hgap, hbefore, hspelt, rfl⟩
  refine ⟨(key, document), members, _, ?_, ⟨[], _, after, blank_nil, hmember, hforms, rfl⟩, ?_, rfl⟩
  · rw [fieldsDepth]
    exact Nat.max_lt.mpr ⟨hlevels, hlevels'⟩
  · rw [hname, hgaprest, hhere, hafter]
    simp

theorem membersSound_succ (hvalues : ValuesSound fuel) (hmembers : MembersSound fuel) : MembersSound (fuel + 1) := by
  intro depth first fields result cursor next hdepth h
  obtain ⟨blank, hblank, -, hrest⟩ := exists_skipBlanks cursor
  rw [hrest]
  unfold readFields at h
  dsimp only at h
  split at h
  · cases h
  · cases h
  · rename_i fuel' c rest heq hhere
    cases heq
    rw [hhere]
    split at h
    · rename_i hc
      cases h
      exact ⟨[], blank, hdepth, listed_nil hblank first, by rw [hc]; rfl, rfl⟩
    · split at h
      · rename_i hfirst
        split at h
        · rename_i hc
          obtain ⟨member, members, text, hlevels, hforms, htext, hmeaning⟩ :=
            exists_of_readMember hvalues hmembers hdepth h
          refine ⟨member :: members, blank ++ text, hlevels, ?_, ?_, hmeaning⟩
          · rw [Listed, if_pos hfirst]
            exact hforms.blank_append hblank
          · rw [hc, List.append_assoc, ← htext]
            rfl
        · cases h
      · split at h
        · rename_i hfirst hc
          obtain ⟨blank', hblank', -, hrest'⟩ := exists_skipBlanks (cursor.skipBlanks.past c rest)
          split at h
          · cases h
          · rename_i c' rest' hhere'
            split at h
            · rename_i hc'
              obtain ⟨member, members, text, hlevels, hforms, htext, hmeaning⟩ :=
                exists_of_readMember hvalues hmembers hdepth h
              refine ⟨member :: members, blank ++ ',' :: (blank' ++ text), hlevels, ?_, ?_, hmeaning⟩
              · rw [Listed, if_neg hfirst]
                exact (hforms.blank_append hblank').continued hblank
              · rw [hc, show rest = _ from hrest', hhere', hc', List.append_assoc, List.cons_append, List.append_assoc,
                  ← htext]
                rfl
            · split at h
              · cases h
              · cases h
        · cases h

/-- By induction on the fuel: each of the readers calls the others with less. -/
theorem sound (fuel : Nat) : ValuesSound fuel ∧ ItemsSound fuel ∧ MembersSound fuel := by
  induction fuel with
  | zero =>
    refine ⟨?_, ?_, ?_⟩
    · intro depth cursor next value hdepth h
      unfold readValue at h
      dsimp only at h
      split at h
      · cases h
      · cases h
      · rename_i heq _
        cases heq
    · intro depth first cursor next items hdepth h
      unfold readItems at h
      dsimp only at h
      split at h
      · cases h
      · cases h
      · rename_i heq _
        cases heq
    · intro depth first fields result cursor next hdepth h
      unfold readFields at h
      dsimp only at h
      split at h
      · cases h
      · cases h
      · rename_i heq _
        cases heq
  | succ fuel ih =>
    obtain ⟨hvalues, hitems, hmembers⟩ := ih
    exact ⟨valuesSound_succ hitems hmembers, itemsSound_succ hvalues hitems, membersSound_succ hvalues hmembers⟩

end GoldenBench.Json
