import GoldenBench.Proofs.Json.Soundness

/-!
# What the reader of documents does not refuse

A document as written is read to its end, wherever the reader stands, if it does not nest too deep and what comes next
does not go on with its last number. A character of fuel for each character read is enough. The induction is on the
document.

* `parse_eq_ok_iff`: with soundness, what the reader accepts and what it gives.
-/

namespace GoldenBench.Json

variable {fuel depth : Nat} {value : Json} {core text more : List Char}

/-! ## What a value begins and ends with -/

/-- What a value begins with: no blank, and no bracket that ends a list. -/
def Begins (text : List Char) : Prop :=
  ∃ c rest, text = c :: rest ∧ ¬isBlank c ∧ c ≠ ']'

theorem begins_digit {c : Char} (h : c.isDigit) (rest : List Char) : Begins (c :: rest) := by
  refine ⟨c, rest, rfl, fun hblank => ?_, ?_⟩
  · simp only [isBlank, Bool.or_eq_true, beq_iff_eq] at hblank
    rcases hblank with ((rfl | rfl) | rfl) | rfl
    all_goals cases h
  · rintro rfl
    cases h

theorem Numeral.begins (numeral : Numeral) : Begins numeral.text := by
  rw [text]
  cases numeral.positive with
  | false => exact ⟨'-', numeral.unsigned, rfl, by decide, by decide⟩
  | true =>
    obtain ⟨hne, hdigits⟩ := numeral.isDigits_whole
    obtain ⟨d, ds, hwhole⟩ := List.exists_cons_of_ne_nil hne
    rw [if_pos rfl, unsigned, hwhole, List.cons_append]
    exact begins_digit (hdigits d (hwhole ▸ List.mem_cons_self)) _

theorem Spelt.begins {document : Json} (h : document.Spelt core) : Begins core := by
  cases document with
  | null =>
    obtain rfl : core = "null".toList := h
    exact ⟨'n', _, rfl, by decide, by decide⟩
  | bool value =>
    cases value with
    | false =>
      obtain rfl : core = "false".toList := h
      exact ⟨'f', _, rfl, by decide, by decide⟩
    | true =>
      obtain rfl : core = "true".toList := h
      exact ⟨'t', _, rfl, by decide, by decide⟩
  | whole value =>
    obtain ⟨numeral, rfl, -⟩ := h
    exact numeral.begins
  | real bits =>
    obtain ⟨numeral, rfl, -⟩ := h
    exact numeral.begins
  | str value =>
    obtain ⟨inner, rfl, -⟩ := h
    exact ⟨'"', _, rfl, by decide, by decide⟩
  | arr items =>
    obtain ⟨inner, rfl, -⟩ := h
    exact ⟨'[', _, rfl, by decide, by decide⟩
  | obj members =>
    obtain ⟨inner, rfl, -⟩ := h
    exact ⟨'{', _, rfl, by decide, by decide⟩

theorem noBlank_cons {c : Char} (h : ¬isBlank c) (rest : List Char) : NoBlank (c :: rest) := fun d hd => by
  obtain rfl : c = d := Option.some.inj hd
  exact h

theorem Begins.noBlank (h : Begins core) (more : List Char) : NoBlank (core ++ more) := by
  obtain ⟨c, rest, rfl, hblank, -⟩ := h
  exact noBlank_cons hblank (rest ++ more)

/-- A number does not go on with a blank, a comma or a bracket. -/
theorem ends_cons {c : Char} (h : isBlank c ∨ c ∈ [',', ']', '}']) (rest : List Char) : Ends (c :: rest) := by
  have hchar : ¬c.isDigit ∧ c ≠ '.' ∧ c ≠ 'e' ∧ c ≠ 'E' := by
    simp only [isBlank, Bool.or_eq_true, beq_iff_eq, List.mem_cons, List.not_mem_nil, or_false] at h
    rcases h with (((rfl | rfl) | rfl) | rfl) | rfl | rfl | rfl
    all_goals decide
  refine ⟨fun d hd => ?_, fun d hd => ?_⟩
  · obtain rfl : c = d := Option.some.inj hd
    exact hchar.1
  · obtain rfl : c = d := Option.some.inj hd
    exact hchar.2

theorem Blank.ends (h : Blank text) (hmore : Ends more) : Ends (text ++ more) := by
  cases text with
  | nil => exact hmore
  | cons c text => exact ends_cons (.inl (h c List.mem_cons_self)) _

theorem Continued.ends {forms : List (List Char → Prop)} (h : Continued forms text) (hmore : Ends more) :
    Ends (text ++ more) := by
  cases forms with
  | nil => exact Blank.ends h hmore
  | cons form forms =>
    obtain ⟨gap, before, core, after, hgap, -, -, -, rfl⟩ := h
    rw [List.append_assoc]
    exact hgap.ends (ends_cons (.inr (by simp)) _)

theorem Continued.ends_before {forms : List (List Char → Prop)} (h : Continued forms text) {c : Char}
    (hc : c ∈ [',', ']', '}']) : Ends (text ++ [c] ++ more) := by
  rw [List.append_assoc]
  exact h.ends (ends_cons (.inr hc) more)

theorem Begins.length_pos (h : Begins core) : 0 < core.length := by
  obtain ⟨c, rest, rfl, -⟩ := h
  exact Nat.succ_pos _

theorem skipBlanks_of_noBlank (h : NoBlank text) (column : Nat) :
    Cursor.skipBlanks ⟨text, column⟩ = ⟨text, column⟩ :=
  skipBlanks_append blank_nil h column

/-! ## Steps of the reader -/

theorem readColon_append {gap : List Char} (h : Blank gap) (more : List Char) (column : Nat) :
    ∃ left, readColon ⟨gap ++ ':' :: more, column⟩ = .ok ⟨more, left⟩ := by
  refine ⟨column + gap.length + 1, ?_⟩
  rw [readColon, skipBlanks_append h (noBlank_cons (by decide) more)]
  rfl

/-- Blanks before a value are dropped. -/
theorem Reads.blank_append (h : Reads (readValue fuel depth) core value more) (hcore : Begins core)
    {before : List Char} (hbefore : Blank before) : Reads (readValue fuel depth) (before ++ core) value more := by
  intro column
  obtain ⟨left, hread⟩ := h (column + before.length)
  have hskip : Cursor.skipBlanks ⟨before ++ core ++ more, column⟩ =
      Cursor.skipBlanks ⟨core ++ more, column + before.length⟩ := by
    rw [List.append_assoc, skipBlanks_append hbefore (hcore.noBlank more),
      skipBlanks_of_noBlank (hcore.noBlank more)]
  refine ⟨left, ?_⟩
  rw [← hread]
  unfold readValue
  rw [hskip]

theorem readValue_quote (rest : List Char) (column : Nat) :
    readValue (fuel + 1) depth ⟨'"' :: rest, column⟩ =
      (readQuoted ⟨rest, column + 1⟩ >>= fun read => return (.str read.1, read.2)) := rfl

theorem readValue_bracket (rest : List Char) (column : Nat) (hdepth : ¬depth ≤ 1) :
    readValue (fuel + 1) depth ⟨'[' :: rest, column⟩ =
      (readItems fuel (depth - 1) true ⟨rest, column + 1⟩ >>= fun read => return (.arr read.1, read.2)) :=
  if_neg hdepth

theorem readValue_brace (rest : List Char) (column : Nat) (hdepth : ¬depth ≤ 1) :
    readValue (fuel + 1) depth ⟨'{' :: rest, column⟩ =
      (readFields fuel (depth - 1) true [] ⟨rest, column + 1⟩ >>= fun read => return (.obj read.1, read.2)) :=
  if_neg hdepth

theorem readValue_digit {c : Char} (h : c.isDigit) (rest : List Char) (column : Nat) :
    readValue (fuel + 1) depth ⟨c :: rest, column⟩ = readNumber true ⟨c :: rest, column⟩ := by
  obtain ⟨d, tail, heq, hblank, -⟩ := begins_digit h rest
  obtain ⟨rfl, -⟩ := List.cons.inj heq
  unfold readValue
  rw [skipBlanks_of_noBlank (noBlank_cons hblank rest)]
  dsimp only
  split
  case h_8 => rw [if_pos h]
  all_goals cases h

theorem reads_numeral {numeral : Numeral} (h : numeral.value? = some value) (hmore : Ends more) :
    Reads (readValue (fuel + 1) depth) numeral.text value more := by
  have hanswers := numeral.answers hmore
  rw [h] at hanswers
  rw [Numeral.text]
  cases hsign : numeral.positive with
  | false =>
    rw [hsign] at hanswers
    exact fun column => hanswers (column + 1)
  | true =>
    rw [hsign] at hanswers
    obtain ⟨hne, hdigits⟩ := numeral.isDigits_whole
    obtain ⟨d, ds, hwhole⟩ := List.exists_cons_of_ne_nil hne
    intro column
    obtain ⟨left, hread⟩ := hanswers column
    refine ⟨left, Eq.trans ?_ hread⟩
    rw [if_pos rfl, Numeral.unsigned, hwhole, List.cons_append, List.cons_append]
    exact readValue_digit (hdigits d (hwhole ▸ List.mem_cons_self)) _ column

theorem reads_quoted {text : String} (h : IsQuoted text core) :
    Reads (readValue (fuel + 1) depth) core (.str text) more := by
  intro column
  obtain ⟨inner, rfl, hinner⟩ := h
  have hquoted : Reads readQuoted (inner ++ ['"']) text more := reads_readQuoted hinner
  obtain ⟨left, hread⟩ := hquoted (column + 1)
  refine ⟨left, ?_⟩
  rw [List.cons_append, readValue_quote, hread]
  rfl

theorem reads_list {items : List Json} (hdepth : ¬depth ≤ 1)
    (h : Reads (readItems fuel (depth - 1) true) (text ++ [']']) items more) :
    Reads (readValue (fuel + 1) depth) ('[' :: (text ++ [']'])) (.arr items) more := by
  intro column
  obtain ⟨left, hread⟩ := h (column + 1)
  refine ⟨left, ?_⟩
  rw [List.cons_append, readValue_bracket _ _ hdepth, hread]
  rfl

theorem reads_object {fields : Fields} (hdepth : ¬depth ≤ 1)
    (h : Reads (readFields fuel (depth - 1) true []) (text ++ ['}']) fields more) :
    Reads (readValue (fuel + 1) depth) ('{' :: (text ++ ['}'])) (.obj fields) more := by
  intro column
  obtain ⟨left, hread⟩ := h (column + 1)
  refine ⟨left, ?_⟩
  rw [List.cons_append, readValue_brace _ _ hdepth, hread]
  rfl

section

variable {item : Json} {items : List Json} {gap before after : List Char} {first : Bool}

theorem readItems_blank (h : Blank before) (hmore : NoBlank more) (column : Nat) :
    readItems fuel depth first ⟨before ++ more, column⟩ =
      readItems fuel depth first ⟨more, column + before.length⟩ := by
  unfold readItems
  rw [skipBlanks_append h hmore, skipBlanks_of_noBlank hmore]

theorem reads_items_nil (h : Blank text) : Reads (readItems (fuel + 1) depth first) (text ++ [']']) [] more := by
  intro column
  refine ⟨column + text.length + 1, ?_⟩
  rw [List.append_assoc, List.singleton_append, readItems_blank h (noBlank_cons (by decide) _)]
  unfold readItems
  rw [skipBlanks_of_noBlank (noBlank_cons (by decide) _)]
  exact if_pos rfl

/-- A value, before the others. -/
theorem reads_item (hitem : Reads (readValue fuel depth) core item (after ++ [']'] ++ more))
    (hitems : Reads (readItems fuel depth false) (after ++ [']']) items more) (column : Nat) :
    ∃ left, (do
      let (item, cursor) ← readValue fuel depth ⟨core ++ (after ++ [']'] ++ more), column⟩
      let (items, cursor) ← readItems fuel depth false cursor
      return (item :: items, cursor)) = Except.ok (item :: items, ⟨more, left⟩) := by
  obtain ⟨afterItem, hreadItem⟩ := hitem column
  obtain ⟨left, hreadItems⟩ := hitems afterItem
  refine ⟨left, ?_⟩
  rw [hreadItem]
  show (readItems fuel depth false _ >>= _) = _
  rw [hreadItems]
  rfl

theorem reads_items_first (hbefore : Blank before) (hcore : Begins core)
    (hitem : Reads (readValue fuel depth) core item (after ++ [']'] ++ more))
    (hitems : Reads (readItems fuel depth false) (after ++ [']']) items more) :
    Reads (readItems (fuel + 1) depth true) (before ++ (core ++ after) ++ [']']) (item :: items) more := by
  intro column
  obtain ⟨left, hread⟩ := reads_item hitem hitems (column + before.length)
  refine ⟨left, Eq.trans ?_ hread⟩
  have htext : before ++ (core ++ after) ++ [']'] ++ more = before ++ (core ++ (after ++ [']'] ++ more)) := by
    simp only [List.append_assoc]
  rw [htext, readItems_blank hbefore (hcore.noBlank _)]
  have hskip := skipBlanks_of_noBlank (hcore.noBlank (after ++ [']'] ++ more)) (column + before.length)
  obtain ⟨c, rest, rfl, -, hc⟩ := hcore
  conv => lhs; unfold readItems
  rw [hskip]
  exact if_neg hc

theorem reads_items_next (hgap : Blank gap) (hbefore : Blank before) (hcore : Begins core)
    (hitem : Reads (readValue fuel depth) core item (after ++ [']'] ++ more))
    (hitems : Reads (readItems fuel depth false) (after ++ [']']) items more) :
    Reads (readItems (fuel + 1) depth false) (gap ++ ',' :: (before ++ (core ++ after)) ++ [']']) (item :: items)
      more := by
  intro column
  obtain ⟨left, hread⟩ := reads_item hitem hitems (column + gap.length + 1 + before.length)
  refine ⟨left, Eq.trans ?_ hread⟩
  have htext : gap ++ ',' :: (before ++ (core ++ after)) ++ [']'] ++ more =
      gap ++ ',' :: (before ++ (core ++ (after ++ [']'] ++ more))) := by
    simp only [List.append_assoc, List.cons_append]
  have hskip := skipBlanks_append hbefore (hcore.noBlank (after ++ [']'] ++ more)) (column + gap.length + 1)
  rw [htext, readItems_blank hgap (noBlank_cons (by decide) _)]
  obtain ⟨c, rest, rfl, -, hc⟩ := hcore
  conv => lhs; unfold readItems
  have hcomma : ','.utf8Size = 1 := rfl
  have hbracket : ¬(',' = ']') := by decide
  rw [skipBlanks_of_noBlank (noBlank_cons (by decide) _)]
  simp only [List.cons_append] at hskip ⊢
  simp only [Cursor.past, hbracket, if_false, Bool.false_eq_true, if_true, hcomma, hskip, hc]

end

section

variable {key : String} {fields result : Fields} {gap inner before after : List Char} {first : Bool}

theorem readFields_blank (h : Blank before) (hmore : NoBlank more) (column : Nat) :
    readFields fuel depth first fields ⟨before ++ more, column⟩ =
      readFields fuel depth first fields ⟨more, column + before.length⟩ := by
  unfold readFields
  rw [skipBlanks_append h hmore, skipBlanks_of_noBlank hmore]

theorem reads_members_nil (h : Blank text) :
    Reads (readFields (fuel + 1) depth first fields) (text ++ ['}']) fields more := by
  intro column
  refine ⟨column + text.length + 1, ?_⟩
  rw [List.append_assoc, List.singleton_append, readFields_blank h (noBlank_cons (by decide) _)]
  unfold readFields
  rw [skipBlanks_of_noBlank (noBlank_cons (by decide) _)]
  exact if_pos rfl

/-- A member after the quote that it begins with, before the others. -/
theorem reads_member (hkey : TextSpelt inner key.toList) (hgap : Blank gap)
    (hvalue : Reads (readValue fuel depth) core value (after ++ ['}'] ++ more))
    (hmembers : Reads (readFields fuel depth false (fields.insert key value)) (after ++ ['}']) result more)
    (column : Nat) :
    ∃ left, (do
      let (key, cursor) ← readQuoted ⟨inner ++ ['"'] ++ (gap ++ ':' :: (core ++ (after ++ ['}'] ++ more))), column⟩
      let cursor ← readColon cursor
      let (value, cursor) ← readValue fuel depth cursor
      readFields fuel depth false (fields.insert key value) cursor) = Except.ok (result, ⟨more, left⟩) := by
  have hquoted : Reads readQuoted (inner ++ ['"']) key (gap ++ ':' :: (core ++ (after ++ ['}'] ++ more))) :=
    reads_readQuoted hkey
  obtain ⟨afterKey, hreadKey⟩ := hquoted column
  obtain ⟨afterColon, hreadColon⟩ := readColon_append hgap (core ++ (after ++ ['}'] ++ more)) afterKey
  obtain ⟨afterValue, hreadValue⟩ := hvalue afterColon
  obtain ⟨left, hreadMembers⟩ := hmembers afterValue
  refine ⟨left, ?_⟩
  rw [hreadKey]
  show (readColon _ >>= _) = _
  rw [hreadColon]
  show (readValue fuel depth _ >>= _) = _
  rw [hreadValue]
  exact hreadMembers

theorem reads_members_first (hbefore : Blank before) (hkey : TextSpelt inner key.toList) (hgap : Blank gap)
    (hvalue : Reads (readValue fuel depth) core value (after ++ ['}'] ++ more))
    (hmembers : Reads (readFields fuel depth false (fields.insert key value)) (after ++ ['}']) result more) :
    Reads (readFields (fuel + 1) depth true fields)
      (before ++ ('"' :: (inner ++ ['"']) ++ (gap ++ ':' :: core) ++ after) ++ ['}']) result more := by
  intro column
  obtain ⟨left, hread⟩ := reads_member hkey hgap hvalue hmembers (column + before.length + 1)
  refine ⟨left, Eq.trans ?_ hread⟩
  have htext : before ++ ('"' :: (inner ++ ['"']) ++ (gap ++ ':' :: core) ++ after) ++ ['}'] ++ more =
      before ++ '"' :: (inner ++ ['"'] ++ (gap ++ ':' :: (core ++ (after ++ ['}'] ++ more)))) := by
    simp only [List.append_assoc, List.cons_append]
  rw [htext, readFields_blank hbefore (noBlank_cons (by decide) _)]
  conv => lhs; unfold readFields
  rw [skipBlanks_of_noBlank (noBlank_cons (by decide) _)]
  rfl

theorem reads_members_next (hbefore : Blank before) {front : List Char} (hfront : Blank front)
    (hkey : TextSpelt inner key.toList) (hgap : Blank gap)
    (hvalue : Reads (readValue fuel depth) core value (after ++ ['}'] ++ more))
    (hmembers : Reads (readFields fuel depth false (fields.insert key value)) (after ++ ['}']) result more) :
    Reads (readFields (fuel + 1) depth false fields)
      (front ++ ',' :: (before ++ ('"' :: (inner ++ ['"']) ++ (gap ++ ':' :: core) ++ after)) ++ ['}']) result
      more := by
  intro column
  obtain ⟨left, hread⟩ := reads_member hkey hgap hvalue hmembers (column + front.length + 1 + before.length + 1)
  refine ⟨left, Eq.trans ?_ hread⟩
  have htext : front ++ ',' :: (before ++ ('"' :: (inner ++ ['"']) ++ (gap ++ ':' :: core) ++ after)) ++ ['}'] ++ more =
      front ++ ',' :: (before ++ '"' :: (inner ++ ['"'] ++ (gap ++ ':' :: (core ++ (after ++ ['}'] ++ more))))) := by
    simp only [List.append_assoc, List.cons_append]
  have hquote : ¬isBlank '"' := by decide
  have hskip := skipBlanks_append hbefore
    (noBlank_cons hquote (inner ++ ['"'] ++ (gap ++ ':' :: (core ++ (after ++ ['}'] ++ more)))))
    (column + front.length + 1)
  have hcomma : ','.utf8Size = 1 := rfl
  have hbrace : ¬(',' = '}') := by decide
  rw [htext, readFields_blank hfront (noBlank_cons (by decide) _)]
  conv => lhs; unfold readFields
  rw [skipBlanks_of_noBlank (noBlank_cons (by decide) _)]
  simp only [Cursor.past, hbrace, if_false, Bool.false_eq_true, if_true, hcomma, hskip]
  rfl

end

/-! ## Whole documents -/

mutual

theorem reads_readValue : ∀ (document : Json) {fuel depth : Nat} {core more : List Char}, document.Spelt core →
    document.depth < depth → core.length ≤ fuel → Ends more →
    Reads (readValue fuel depth) core document.meaning more := by
  intro document fuel depth core more hspelt hdepth hfuel hmore
  obtain ⟨c, rest, hcore, -⟩ := hspelt.begins
  obtain ⟨fuel, rfl⟩ : ∃ less, fuel = less + 1 := by
    rw [hcore, List.length_cons] at hfuel
    exact Nat.exists_eq_add_one_of_ne_zero (by omega)
  match document, hspelt with
  | .null, hspelt =>
    obtain rfl : core = "null".toList := hspelt
    exact fun column => ⟨column + 4, rfl⟩
  | .bool true, hspelt =>
    obtain rfl : core = "true".toList := hspelt
    exact fun column => ⟨column + 4, rfl⟩
  | .bool false, hspelt =>
    obtain rfl : core = "false".toList := hspelt
    exact fun column => ⟨column + 5, rfl⟩
  | .whole value, hspelt =>
    obtain ⟨numeral, rfl, hvalue⟩ := hspelt
    exact reads_numeral hvalue hmore
  | .real bits, hspelt =>
    obtain ⟨numeral, rfl, hvalue⟩ := hspelt
    exact reads_numeral hvalue hmore
  | .str value, hspelt => exact reads_quoted hspelt
  | .arr documents, hspelt =>
    obtain ⟨inner, rfl, hinner⟩ := hspelt
    rw [Json.depth] at hdepth
    simp only [List.length_cons, List.length_append, List.length_nil] at hfuel
    have hlisted : Listed true (itemForms documents) inner := hinner
    exact reads_list (by omega) (reads_readItems documents hlisted (by omega) (by omega))
  | .obj members, hspelt =>
    obtain ⟨inner, rfl, hinner⟩ := hspelt
    rw [Json.depth] at hdepth
    simp only [List.length_cons, List.length_append, List.length_nil] at hfuel
    have hlisted : Listed true (memberForms members) inner := hinner
    exact reads_object (by omega) (reads_readFields members hlisted (by omega) (by omega))

theorem reads_readItems : ∀ (documents : List Json) {fuel depth : Nat} {first : Bool} {text more : List Char},
    Listed first (itemForms documents) text → itemsDepth documents < depth → text.length < fuel →
    Reads (readItems fuel depth first) (text ++ [']']) (itemMeanings documents) more
  | [], fuel, depth, first, text, more, htext, hdepth, hfuel => by
    obtain ⟨fuel, rfl⟩ := Nat.exists_eq_add_one_of_ne_zero (Nat.ne_zero_of_lt hfuel)
    have hblank : Blank text := by
      cases first with
      | false => exact htext
      | true => exact htext
    exact reads_items_nil hblank
  | document :: documents, fuel, depth, first, text, more, htext, hdepth, hfuel => by
    obtain ⟨fuel, rfl⟩ := Nat.exists_eq_add_one_of_ne_zero (Nat.ne_zero_of_lt hfuel)
    rw [itemsDepth] at hdepth
    obtain ⟨hdocument, hdocuments⟩ := Nat.max_lt.mp hdepth
    cases first with
    | true =>
      obtain ⟨before, core, after, hbefore, hspelt, hafter, rfl⟩ := htext
      have hbegins := hspelt.begins
      have hlength := hbegins.length_pos
      simp only [List.length_append] at hfuel
      have hlisted : Listed false (itemForms documents) after := hafter
      have hends : Ends (after ++ [']'] ++ more) := hafter.ends_before (by simp)
      exact reads_items_first hbefore hbegins (reads_readValue document hspelt hdocument (by omega) hends)
        (reads_readItems documents hlisted hdocuments (by omega))
    | false =>
      obtain ⟨gap, before, core, after, hgap, hbefore, hspelt, hafter, rfl⟩ := htext
      have hbegins := hspelt.begins
      have hlength := hbegins.length_pos
      simp only [List.length_append, List.length_cons] at hfuel
      have hlisted : Listed false (itemForms documents) after := hafter
      have hends : Ends (after ++ [']'] ++ more) := hafter.ends_before (by simp)
      exact reads_items_next hgap hbefore hbegins (reads_readValue document hspelt hdocument (by omega) hends)
        (reads_readItems documents hlisted hdocuments (by omega))

theorem reads_readFields : ∀ (members : List (String × Json)) {fuel depth : Nat} {first : Bool} {fields : Fields}
    {text more : List Char}, Listed first (memberForms members) text → fieldsDepth members < depth →
    text.length < fuel →
    Reads (readFields fuel depth first fields) (text ++ ['}']) (fields.insertAll (memberMeanings members)) more
  | [], fuel, depth, first, fields, text, more, htext, hdepth, hfuel => by
    obtain ⟨fuel, rfl⟩ := Nat.exists_eq_add_one_of_ne_zero (Nat.ne_zero_of_lt hfuel)
    have hblank : Blank text := by
      cases first with
      | false => exact htext
      | true => exact htext
    exact reads_members_nil hblank
  | (key, document) :: members, fuel, depth, first, fields, text, more, htext, hdepth, hfuel => by
    obtain ⟨fuel, rfl⟩ := Nat.exists_eq_add_one_of_ne_zero (Nat.ne_zero_of_lt hfuel)
    rw [fieldsDepth] at hdepth
    obtain ⟨hdocument, hmembers⟩ := Nat.max_lt.mp hdepth
    cases first with
    | true =>
      obtain ⟨before, _, after, hbefore, ⟨_, gap, blank, core, ⟨inner, rfl, hkey⟩, hgap, hblank, hspelt, rfl⟩, hafter,
        rfl⟩ := htext
      have hbegins := hspelt.begins
      simp only [List.length_append, List.length_cons] at hfuel
      have hlisted : Listed false (memberForms members) after := hafter
      have hends : Ends (after ++ ['}'] ++ more) := hafter.ends_before (by simp)
      have hvalue : Reads (readValue fuel depth) core document.meaning (after ++ ['}'] ++ more) :=
        reads_readValue document hspelt hdocument (by omega) hends
      exact reads_members_first hbefore hkey hgap (hvalue.blank_append hbegins hblank)
        (reads_readFields members hlisted hmembers (by omega))
    | false =>
      obtain ⟨front, before, _, after, hfront, hbefore,
        ⟨_, gap, blank, core, ⟨inner, rfl, hkey⟩, hgap, hblank, hspelt, rfl⟩, hafter, rfl⟩ := htext
      have hbegins := hspelt.begins
      simp only [List.length_append, List.length_cons] at hfuel
      have hlisted : Listed false (memberForms members) after := hafter
      have hends : Ends (after ++ ['}'] ++ more) := hafter.ends_before (by simp)
      have hvalue : Reads (readValue fuel depth) core document.meaning (after ++ ['}'] ++ more) :=
        reads_readValue document hspelt hdocument (by omega) hends
      exact reads_members_next hbefore hfront hkey hgap (hvalue.blank_append hbegins hblank)
        (reads_readFields members hlisted hmembers (by omega))

end

theorem ends_nil : Ends [] :=
  ⟨fun _ hc => absurd hc (Option.not_mem_none _), fun _ hc => absurd hc (Option.not_mem_none _)⟩

/-- The reader accepts the documents as written that do not nest too deep, and gives what they stand for. -/
theorem parse_eq_ok_iff : parse text = .ok value ↔ ∃ document, IsText document text ∧ document.meaning = value := by
  constructor
  · intro h
    obtain ⟨⟨found, cursor⟩, hread, h⟩ := exists_of_bind h
    obtain ⟨after, hafter, hno, hrest⟩ := exists_skipBlanks cursor
    dsimp only at h
    split at h
    · rename_i hempty
      cases h
      obtain ⟨hvalues, -⟩ := sound (2 * text.length + 2)
      obtain ⟨document, before, core, hdepth, hbefore, hspelt, htext, hmeaning⟩ := hvalues (by decide) hread
      rw [List.isEmpty_iff.mp hempty, List.append_nil] at hrest
      exact ⟨document, ⟨hdepth, before, core, after, hbefore, hspelt, hafter, hrest ▸ htext⟩, hmeaning⟩
    · cases h
  · rintro ⟨document, ⟨hdepth, before, core, after, hbefore, hspelt, hafter, rfl⟩, rfl⟩
    have hends : Ends after := by
      rw [← List.append_nil after]
      exact hafter.ends ends_nil
    have hfuel : core.length ≤ 2 * (before ++ (core ++ after)).length + 2 := by
      simp only [List.length_append]
      omega
    have hvalue := reads_readValue document hspelt hdepth hfuel hends
    obtain ⟨left, hread⟩ := hvalue.blank_append hspelt.begins hbefore 0
    have hnil : NoBlank [] := fun c hc => absurd hc (Option.not_mem_none c)
    have hskip := skipBlanks_append hafter hnil left
    rw [List.append_nil] at hskip
    rw [List.append_assoc] at hread
    rw [parse, hread]
    show (if (Cursor.skipBlanks ⟨after, left⟩).rest.isEmpty then _ else _) = _
    rw [hskip]
    rfl

end GoldenBench.Json
