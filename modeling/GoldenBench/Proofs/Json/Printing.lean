import GoldenBench.Json.Printer
import GoldenBench.Proofs.Json.Completeness
import GoldenBench.Proofs.Json.Order

/-!
# Documents written and read back

A document is written as one of the texts that it may be written as (`spelt_render`), if its numbers are whole and kept
exactly, and the text has no line feed in it. So the reader gives the document back (`parse_render`), if its objects are
in order and it does not nest too deep.
-/

namespace GoldenBench.Json

/-! ## Texts -/

/-- The number of a control character is written with four hexadecimal digits. -/
theorem hexSpelt_of_lt {n : Nat} (h : n < 0x20) : HexSpelt ['0', '0', hexDigit (n / 16), hexDigit (n % 16)] n := by
  have hdigits : ∀ n < 0x20, ['0', '0', hexDigit (n / 16), hexDigit (n % 16)].mapM hexValue? =
      some [0, 0, n / 16, n % 16] := by decide
  exact ⟨0, 0, n / 16, n % 16, hdigits n h, by omega⟩

theorem textSpelt_renderChar (c : Char) {spelling text : List Char} (h : TextSpelt spelling text) :
    TextSpelt (renderChar c ++ spelling) (c :: text) := by
  have hletter : ∀ letter c, (letter, c) ∈ letterEscapes → TextSpelt (['\\', letter] ++ spelling) (c :: text) :=
    fun letter c hmem => .escape (.letter hmem) h
  unfold renderChar
  split
  case h_8 hquote hslash _ _ _ _ _ =>
    split
    · rename_i hcontrol
      have hspelt := TextSpelt.escape (.code (hexSpelt_of_lt hcontrol) (by omega)) h
      rw [Char.ofNat_toNat] at hspelt
      exact hspelt
    · rename_i hcontrol
      exact .plain hquote hslash hcontrol h
  all_goals exact hletter _ _ (by decide)

theorem textSpelt_flatMap (text : List Char) : TextSpelt (text.flatMap renderChar) text := by
  induction text with
  | nil => exact .nil
  | cons c text ih =>
    rw [List.flatMap_cons]
    exact textSpelt_renderChar c ih

theorem isQuoted_renderText (text : String) : IsQuoted text (renderText text.toList) :=
  ⟨text.toList.flatMap renderChar, rfl, textSpelt_flatMap text.toList⟩

/-! ## Whole numbers -/

theorem le_ofDigitChars (digits : List Char) (n : Nat) : n ≤ Nat.ofDigitChars 10 digits n := by
  induction digits generalizing n with
  | nil => exact Nat.le_refl n
  | cons c digits ih =>
    rw [Nat.ofDigitChars_cons]
    exact Nat.le_trans (by omega) (ih _)

/-- Digits whose number fits into the significand are all taken. -/
theorem gather_eq {digits : List Char} (hdigits : ∀ c ∈ digits, c.isDigit) {n : Nat}
    (h : Nat.ofDigitChars 10 digits n ≤ greatestSignificand) (taken : Nat) :
    gather n taken digits = (Nat.ofDigitChars 10 digits n, taken + digits.length) := by
  induction digits generalizing n taken with
  | nil => rfl
  | cons c digits ih =>
    rw [Nat.ofDigitChars_cons] at h ⊢
    have hnext := Nat.le_trans (le_ofDigitChars digits _) h
    rw [gather, if_pos ⟨hdigits c List.mem_cons_self, hnext⟩, ih (fun d hd => hdigits d (List.mem_cons_of_mem _ hd)) h,
      List.length_cons, Nat.add_right_comm, Nat.add_assoc]

/-- Only zero begins with a zero. -/
theorem head?_toDigits {n : Nat} (h : (Nat.toDigits 10 n).head? = some '0') : Nat.toDigits 10 n = ['0'] := by
  induction n using Nat.strongRecOn with
  | _ n ih =>
    rcases Nat.lt_or_ge n 10 with hlt | hge
    · rw [Nat.toDigits_of_lt_base hlt] at h ⊢
      rw [Option.some.inj h]
    · rw [Nat.toDigits_of_base_le (by decide) hge, List.head?_append_of_ne_nil _ Nat.toDigits_ne_nil] at h
      have hdigits := ih (n / 10) (by omega) h
      have hzero : Nat.ofDigitChars 10 (Nat.toDigits 10 (n / 10)) 0 = 0 := by
        rw [hdigits]
        rfl
      rw [Nat.ofDigitChars_ten_toDigits] at hzero
      omega

/-- A whole number as it is written. -/
def Numeral.ofInt (value : Int) : Numeral where
  positive := decide (0 ≤ value)
  whole := Nat.toDigits 10 value.natAbs
  fraction := none
  exponent := none
  isDigits_whole := ⟨Nat.toDigits_ne_nil, fun _ hc => Nat.isDigit_of_mem_toDigits (by decide) (by decide) hc⟩
  head_whole := head?_toDigits
  isDigits_fraction := fun _ h => absurd h (Option.not_mem_none _)

theorem Numeral.text_ofInt (value : Int) : (ofInt value).text = renderWhole value := by
  have hunsigned : (ofInt value).unsigned = Nat.toDigits 10 value.natAbs := List.append_nil _
  rw [text, renderWhole, hunsigned]
  by_cases h : 0 ≤ value
  · rw [if_neg (not_lt.mpr h)]
    exact if_pos (decide_eq_true h)
  · rw [if_pos (not_le.mp h)]
    exact if_neg (by simpa [ofInt] using h)

theorem Numeral.value?_ofInt {value : Int} (h : isExactWhole value) : (ofInt value).value? = some (.whole value) := by
  obtain ⟨hleast, hgreatest⟩ := Bool.and_eq_true_iff.mp h
  have hleast : leastWhole ≤ value := of_decide_eq_true hleast
  have hgreatest : value ≤ greatestWhole := of_decide_eq_true hgreatest
  have hgather : gather 0 0 (Nat.toDigits 10 value.natAbs) =
      (value.natAbs, 0 + (Nat.toDigits 10 value.natAbs).length) := by
    have hfits : Nat.ofDigitChars 10 (Nat.toDigits 10 value.natAbs) 0 ≤ greatestSignificand := by
      rw [Nat.ofDigitChars_ten_toDigits, greatestSignificand]
      rw [leastWhole] at hleast
      rw [greatestWhole] at hgreatest
      omega
    have hall := gather_eq (ofInt value).isDigits_whole.2 hfits 0
    rwa [ofInt, Nat.ofDigitChars_ten_toDigits] at hall
  show completed? (decide (0 ≤ value)) (gather 0 0 (Nat.toDigits 10 value.natAbs)).1
    ((Nat.toDigits 10 value.natAbs).length - (gather 0 0 (Nat.toDigits 10 value.natAbs)).2) none none = _
  rw [hgather]
  dsimp only
  have hvalue : (if decide (0 ≤ value) = true then (value.natAbs : Int) else -value.natAbs) = value := by
    split
    · rename_i hsign
      exact Int.natAbs_of_nonneg (of_decide_eq_true hsign)
    · rename_i hsign
      rw [decide_eq_true_eq] at hsign
      omega
  have hkept : (decide (0 ≤ value) || (decide (value.natAbs ≠ 0) && decide (leastWhole ≤ value))) = true := by
    by_cases hsign : 0 ≤ value
    · rw [decide_eq_true hsign, Bool.true_or]
    · have hne : value.natAbs ≠ 0 := by omega
      rw [decide_eq_true hne, decide_eq_true hleast, Bool.and_self, Bool.or_true]
  rw [Nat.zero_add, Nat.sub_self, completed?, if_pos rfl]
  dsimp only
  rw [hvalue, if_pos hkept]

/-! ## Documents -/

/-- If the value is a number, it is whole and kept exactly. -/
def IsExact : Json → Prop
  | .whole value => isExactWhole value
  | .real _ => False
  | _ => True

theorem separated_singleton {form : List Char → Prop} {core : List Char} (h : form core) : Separated [form] core :=
  ⟨[], core, [], blank_nil, h, blank_nil, (List.append_nil core).symm⟩

theorem Separated.cons {form next : List Char → Prop} {forms : List (List Char → Prop)} {core text : List Char}
    (h : Separated (next :: forms) text) (hcore : form core) :
    Separated (form :: next :: forms) (core ++ ',' :: text) :=
  ⟨[], core, ',' :: text, blank_nil, hcore, h.continued blank_nil, rfl⟩

/-- A key and a value without blanks. -/
theorem isMember_render {key : String} {form : List Char → Prop} {core : List Char} (h : form core) :
    IsMember key form (renderText key.toList ++ ':' :: core) :=
  ⟨_, [], [], core, isQuoted_renderText key, blank_nil, blank_nil, h, rfl⟩

mutual

theorem spelt_render : ∀ {document : Json}, document.Every IsExact → document.Spelt document.render
  | .null, _ | .bool true, _ | .bool false, _ => rfl
  | .whole value, h => ⟨.ofInt value, (Numeral.text_ofInt value).symm, Numeral.value?_ofInt h⟩
  | .str text, _ => isQuoted_renderText text
  | .arr items, h => ⟨renderItems items, rfl, separated_renderItems h.2⟩
  | .obj fields, h => ⟨renderFields fields, rfl, separated_renderFields h.2⟩

theorem separated_renderItems : ∀ {items : List Json}, EveryItem IsExact items →
    Separated (itemForms items) (renderItems items)
  | [], _ => blank_nil
  | [_], h => separated_singleton (spelt_render h.1)
  | _ :: _ :: _, h => (separated_renderItems h.2).cons (spelt_render h.1)

theorem separated_renderFields : ∀ {fields : List (String × Json)}, EveryField IsExact fields →
    Separated (memberForms fields) (renderFields fields)
  | [], _ => blank_nil
  | [_], h => separated_singleton (isMember_render (spelt_render h.1))
  | (key, value) :: next :: fields, h => by
    have hfirst : IsMember key value.Spelt (renderText key.toList ++ ':' :: value.render) :=
      isMember_render (spelt_render h.1)
    exact (separated_renderFields h.2).cons hfirst

end

/-- The text of a document that does not nest too deep. -/
theorem isText_render {document : Json} (hexact : document.Every IsExact) (hdepth : document.depth < depthLimit) :
    IsText document document.render := by
  refine ⟨hdepth, [], document.render, [], blank_nil, spelt_render hexact, blank_nil, ?_⟩
  rw [List.nil_append, List.append_nil]

/-- A document whose numbers are whole and kept exactly, and whose objects are in order, is read back as it was
written. -/
theorem parse_render {document : Json} (hexact : document.Every IsExact) (horder : document.Every InOrder)
    (hdepth : document.depth < depthLimit) : parse document.render = .ok document :=
  parse_eq_ok_iff.mpr ⟨document, isText_render hexact hdepth, meaning_of_inOrder horder⟩

/-! ## One line -/

/-- No control character is in the text, so that it is all on one line. -/
def Printable (text : List Char) : Prop :=
  ∀ c ∈ text, 0x20 ≤ c.toNat

instance : DecidablePred Printable := fun text => List.decidableBAll _ text

section

variable {front text : List Char} {c : Char}

theorem Printable.append (hfront : Printable front) (htext : Printable text) : Printable (front ++ text) := fun c hc =>
  (List.mem_append.mp hc).elim (hfront c) (htext c)

theorem Printable.cons (hc : 0x20 ≤ c.toNat) (htext : Printable text) : Printable (c :: text) := fun d hd =>
  (List.mem_cons.mp hd).elim (fun heq => heq ▸ hc) (htext d)

theorem printable_hexDigit {n : Nat} (h : n < 16) : 0x20 ≤ (hexDigit n).toNat := by
  have hall : ∀ n < 16, 0x20 ≤ (hexDigit n).toNat := by decide
  exact hall n h

theorem printable_renderChar (c : Char) : Printable (renderChar c) := by
  unfold renderChar
  split
  case h_8 =>
    split
    · rename_i hcontrol
      have hdigits : Printable [hexDigit (c.toNat / 16), hexDigit (c.toNat % 16)] :=
        .cons (printable_hexDigit (by omega)) (.cons (printable_hexDigit (by omega)) (by decide))
      have hmark : Printable ['\\', 'u', '0', '0'] := by decide
      exact hmark.append hdigits
    · rename_i hcontrol
      exact .cons (not_lt.mp hcontrol) (by decide)
  all_goals decide

theorem printable_renderText (text : List Char) : Printable (renderText text) := by
  have hinner : Printable (text.flatMap renderChar) := fun c hc => by
    obtain ⟨d, -, hmem⟩ := List.mem_flatMap.mp hc
    exact printable_renderChar d c hmem
  exact .cons (by decide) (hinner.append (by decide))

theorem printable_renderWhole (value : Int) : Printable (renderWhole value) := by
  have hdigits : Printable (Nat.toDigits 10 value.natAbs) := fun c hc => by
    have hdigit : c.isDigit := Nat.isDigit_of_mem_toDigits (by decide) (by decide) hc
    have hzero : '0'.toNat ≤ c.toNat := (Char.isDigit_iff_toNat.mp hdigit).1
    exact Nat.le_trans (by decide) hzero
  rw [renderWhole]
  split
  · exact .cons (by decide) hdigits
  · exact hdigits

mutual

theorem printable_render : ∀ {document : Json}, document.Every IsExact → Printable document.render
  | .null, _ | .bool true, _ | .bool false, _ => by decide
  | .whole value, _ => printable_renderWhole value
  | .str text, _ => printable_renderText text.toList
  | .arr items, h => .cons (by decide) ((printable_renderItems h.2).append (by decide))
  | .obj fields, h => .cons (by decide) ((printable_renderFields h.2).append (by decide))

theorem printable_renderItems : ∀ {items : List Json}, EveryItem IsExact items → Printable (renderItems items)
  | [], _ => by decide
  | [_], h => printable_render h.1
  | _ :: _ :: _, h => (printable_render h.1).append (.cons (by decide) (printable_renderItems h.2))

theorem printable_renderFields : ∀ {fields : List (String × Json)}, EveryField IsExact fields →
    Printable (renderFields fields)
  | [], _ => by decide
  | [(key, _)], h => (printable_renderText key.toList).append (.cons (by decide) (printable_render h.1))
  | (key, _) :: _ :: _, h =>
    ((printable_renderText key.toList).append (.cons (by decide) (printable_render h.1))).append
      (.cons (by decide) (printable_renderFields h.2))

end

end

end GoldenBench.Json
