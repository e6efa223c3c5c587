import GoldenBench.Json.Number
import Mathlib.Data.List.TakeWhile

/-!
# Numbers as they are written

A number is written as a sign, the digits of its whole part, digits after a point and an exponent (`Numeral`). What it
stands for, if it is not too large, is a function of these parts (`Numeral.value?`).

* `Numeral.answers`: the reader of numbers reads a numeral to its end and gives what it stands for.
* `exists_numeral`: it reads nothing else.
-/

namespace GoldenBench.Json

/-! ## Digits -/

/-- Digits, one at least. -/
def IsDigits (text : List Char) : Prop :=
  text ≠ [] ∧ ∀ c ∈ text, c.isDigit

/-- A text that does not begin with a digit. -/
def NoDigit (text : List Char) : Prop :=
  ∀ c ∈ text.head?, ¬c.isDigit

section

variable {front digits more : List Char}

/-- The front of a text that goes on otherwise. -/
theorem takeWhile_front {p : Char → Bool} (h : ∀ c ∈ front, p c) (hmore : ∀ c ∈ more.head?, ¬p c) :
    (front ++ more).takeWhile p = front := by
  rw [List.takeWhile_append_of_pos h]
  cases more with
  | nil => simp
  | cons c more => rw [List.takeWhile_cons_of_neg (hmore c rfl), List.append_nil]

/-- Every text has a front of one kind, maybe empty, and goes on otherwise. -/
theorem exists_front (p : Char → Bool) (text : List Char) :
    ∃ front more, text = front ++ more ∧ (∀ c ∈ front, p c) ∧ ∀ c ∈ more.head?, ¬p c := by
  refine ⟨text.takeWhile p, text.dropWhile p, List.takeWhile_append_dropWhile.symm,
    fun c hc => List.mem_takeWhile_imp hc, fun c hc => ?_⟩
  have hnot := List.head?_dropWhile_not p text
  rw [Option.mem_def.mp hc] at hnot
  simpa using hnot

theorem digitCount_append (h : ∀ c ∈ digits, c.isDigit) (hmore : NoDigit more) :
    digitCount (digits ++ more) = digits.length := by
  rw [digitCount, takeWhile_front h hmore]

theorem gather_append (h : ∀ c ∈ digits, c.isDigit) (hmore : NoDigit more) (significand taken : Nat) :
    gather significand taken (digits ++ more) = gather significand taken digits := by
  induction digits generalizing significand taken with
  | nil =>
    cases more with
    | nil => rfl
    | cons c more => simp [gather, hmore c rfl]
  | cons c digits ih =>
    rw [List.cons_append, gather, gather, ih fun d hd => h d (List.mem_cons_of_mem _ hd)]

end

/-! ## What is written and what it stands for -/

/-- An exponent as it is written. -/
structure Exponent where
  /-- Its letter. -/
  letter : Char
  /-- Its sign, if it has one. -/
  sign : Option Char
  /-- Its digits. -/
  digits : List Char
  letter_eq : letter = 'e' ∨ letter = 'E'
  sign_eq : sign = none ∨ sign = some '+' ∨ sign = some '-'
  isDigits : IsDigits digits

/-- The text of an exponent. -/
def Exponent.text (exponent : Exponent) : List Char :=
  exponent.letter :: (exponent.sign.toList ++ exponent.digits)

/-- What a significand and a power of ten stand for, if it is not too large. -/
def real? (positive : Bool) (significand : Nat) (power : Int) : Option Json :=
  (scale? significand power).map (signed positive)

/-- What a significand and the digits of an exponent stand for, if it is not too large. -/
def raised? (down positive : Bool) (significand : Nat) (power : Int) (digits : List Char) : Option Json :=
  match exponentOverflow? 0 0 digits with
  | some _ => if significand ≠ 0 ∧ !down then none else some (signed positive 0)
  | none =>
    let exponent : Int := digits.foldl (fun n c => 10 * n + (c.toNat - '0'.toNat)) 0
    real? positive significand (if down then power - exponent else power + exponent)

/-- What a significand and an exponent stand for, if it is not too large. -/
def scaled? (positive : Bool) (significand : Nat) (power : Int) : Option Exponent → Option Json
  | none => real? positive significand power
  | some exponent => raised? (exponent.sign == some '-') positive significand power exponent.digits

/-- What a significand and the digits after the point stand for, with an exponent maybe, if it is not too large. -/
def fractional? (positive : Bool) (significand : Nat) (power : Int) (digits : List Char)
    (exponent : Option Exponent) : Option Json :=
  let (significand, taken) := gather significand 0 digits
  scaled? positive significand (power - taken) exponent

/-- What a number stands for, if it is not too large; `dropped` digits did not fit into its significand. A number
without point and exponent whose digits fit is whole, unless it is a negative one that is too small or zero. -/
def completed? (positive : Bool) (significand dropped : Nat) : Option (List Char) → Option Exponent → Option Json
  | some digits, exponent => fractional? positive significand dropped digits exponent
  | none, some exponent => scaled? positive significand dropped (some exponent)
  | none, none =>
    if dropped = 0 then
      let value : Int := if positive then significand else -significand
      if positive || (significand ≠ 0 && leastWhole ≤ value) then some (.whole value)
      else some (signed positive significand.toUInt64.toFloat)
    else real? positive significand dropped

/-- A number as it is written. -/
structure Numeral where
  /-- Whether no sign stands before it. -/
  positive : Bool
  /-- The digits of its whole part. -/
  whole : List Char
  /-- The digits after its point, if it has one. -/
  fraction : Option (List Char)
  /-- Its exponent, if it has one. -/
  exponent : Option Exponent
  isDigits_whole : IsDigits whole
  head_whole : whole.head? = some '0' → whole = ['0']
  isDigits_fraction : ∀ digits ∈ fraction, IsDigits digits

/-- What is written after the digits of the whole part. -/
def afterWhole (fraction : Option (List Char)) (exponent : Option Exponent) : List Char :=
  fraction.elim [] ('.' :: ·) ++ exponent.elim [] Exponent.text

namespace Numeral

/-- What is written after the sign. -/
def unsigned (numeral : Numeral) : List Char :=
  numeral.whole ++ afterWhole numeral.fraction numeral.exponent

/-- The text of a number. -/
def text (numeral : Numeral) : List Char :=
  if numeral.positive then numeral.unsigned else '-' :: numeral.unsigned

/-- What a number stands for, if it is not too large. -/
def value? (numeral : Numeral) : Option Json :=
  let (significand, taken) := gather 0 0 numeral.whole
  completed? numeral.positive significand (numeral.whole.length - taken) numeral.fraction numeral.exponent

end Numeral

/-! ## Reading it -/

/-- A reader gives an answer for a text and leaves `more`, wherever it stands; without an answer, the text is a number
that is too large. -/
def Answers (read : Cursor → Except Error (Json × Cursor)) (text : List Char) (answer : Option Json)
    (more : List Char) : Prop :=
  ∀ column, ∃ left, read ⟨text ++ more, column⟩ =
    match answer with
    | some value => .ok (value, ⟨more, left⟩)
    | none => .error ⟨.numberOutOfRange, left⟩

/-- A text that begins with neither a point nor the letter of an exponent. -/
def Stops (text : List Char) : Prop :=
  ∀ c ∈ text.head?, c ≠ '.' ∧ c ≠ 'e' ∧ c ≠ 'E'

/-- A text that a number does not go on with. -/
def Ends (text : List Char) : Prop :=
  NoDigit text ∧ Stops text

variable {digits more : List Char} {cursor next : Cursor} {value : Json} {positive down : Bool} {significand : Nat}
  {power : Int}

theorem Answers.eq_some {read : Cursor → Except Error (Json × Cursor)} {text : List Char} {answer : Option Json}
    (h : Answers read text answer more) (hrest : cursor.rest = text ++ more) (hread : read cursor = .ok (value, next)) :
    answer = some value ∧ next.rest = more := by
  obtain ⟨rest, column⟩ := cursor
  obtain ⟨left, heq⟩ := h column
  obtain rfl : rest = text ++ more := hrest
  rw [hread] at heq
  cases answer with
  | none => cases heq
  | some found =>
    obtain ⟨rfl, rfl⟩ : value = found ∧ next = ⟨more, left⟩ := by simpa using heq
    exact ⟨rfl, rfl⟩

theorem answers_finishReal : Answers (finishReal positive significand power) [] (real? positive significand power)
    more := fun column => by
  refine ⟨column, ?_⟩
  rw [finishReal, real?, List.nil_append]
  cases scale? significand power with
  | none => rfl
  | some value => rfl

theorem pastDigits_append (digits more : List Char) (column : Nat) :
    Cursor.pastDigits ⟨digits ++ more, column⟩ digits.length = ⟨more, column + digits.length⟩ := by
  rw [Cursor.pastDigits, List.drop_left]

theorem answers_readPower (h : IsDigits digits) (hmore : NoDigit more) :
    Answers (readPower down positive significand power) digits (raised? down positive significand power digits)
      more := by
  intro column
  obtain ⟨d, ds, rfl⟩ := List.exists_cons_of_ne_nil h.1
  have hd : d.isDigit := h.2 d List.mem_cons_self
  have htake := takeWhile_front h.2 hmore
  have hpast := pastDigits_append (d :: ds) more column
  rw [List.cons_append] at htake hpast
  simp only [readPower, List.cons_append, hd, Bool.not_true, Bool.false_eq_true, if_false, htake, hpast, raised?]
  cases exponentOverflow? 0 0 (d :: ds) with
  | none => exact answers_finishReal _
  | some taken =>
    dsimp only
    split
    · exact ⟨_, rfl⟩
    · exact ⟨_, rfl⟩

theorem exists_of_readPower (h : readPower down positive significand power cursor = .ok (value, next)) :
    ∃ digits, IsDigits digits ∧ cursor.rest = digits ++ next.rest ∧
      raised? down positive significand power digits = some value := by
  obtain ⟨digits, more, hrest, hdigits, hmore⟩ := exists_front Char.isDigit cursor.rest
  cases digits with
  | nil =>
    rw [readPower, hrest, List.nil_append] at h
    cases more with
    | nil => cases h
    | cons c more => simp [hmore c rfl] at h
  | cons d ds =>
    have hall : IsDigits (d :: ds) := ⟨List.cons_ne_nil d ds, hdigits⟩
    obtain ⟨hvalue, hnext⟩ := (answers_readPower hall hmore).eq_some hrest h
    exact ⟨d :: ds, hall, hnext ▸ hrest, hvalue⟩

/-- Without a sign, an exponent begins with a digit. -/
theorem readExponent_unsigned (h : IsDigits digits) (column : Nat) :
    readExponent positive significand power ⟨digits ++ more, column⟩ =
      readPower false positive significand power ⟨digits ++ more, column⟩ := by
  obtain ⟨d, ds, rfl⟩ := List.exists_cons_of_ne_nil h.1
  have hd : d.isDigit := h.2 d List.mem_cons_self
  rw [List.cons_append, readExponent]
  split
  · rename_i hrest
    obtain ⟨rfl, -⟩ : d = '+' ∧ _ := List.cons.inj hrest
    cases hd
  · rename_i hrest
    obtain ⟨rfl, -⟩ : d = '-' ∧ _ := List.cons.inj hrest
    cases hd
  · rfl

theorem answers_readExponent (exponent : Exponent) (hmore : NoDigit more) :
    Answers (readExponent positive significand power) (exponent.sign.toList ++ exponent.digits)
      (scaled? positive significand power (some exponent)) more := by
  intro column
  obtain ⟨letter, sign, digits, -, hsign, hdigits⟩ := exponent
  rcases hsign with rfl | rfl | rfl
  · rw [Option.toList_none, List.nil_append, readExponent_unsigned hdigits]
    exact answers_readPower hdigits hmore column
  · exact answers_readPower hdigits hmore (column + 1)
  · exact answers_readPower hdigits hmore (column + 1)

/-- A reader that goes on with an exponent after its letter. -/
theorem answers_letter {read : Cursor → Except Error (Json × Cursor)}
    (hlower : ∀ rest column, read ⟨'e' :: rest, column⟩ = readExponent positive significand power ⟨rest, column + 1⟩)
    (hupper : ∀ rest column, read ⟨'E' :: rest, column⟩ = readExponent positive significand power ⟨rest, column + 1⟩)
    (exponent : Exponent) (hmore : NoDigit more) :
    Answers read exponent.text (scaled? positive significand power (some exponent)) more := by
  intro column
  obtain ⟨left, hread⟩ := answers_readExponent exponent hmore (column + 1)
  refine ⟨left, ?_⟩
  rw [Exponent.text, List.cons_append]
  rcases exponent.letter_eq with hletter | hletter
  · rw [hletter, hlower, hread]
  · rw [hletter, hupper, hread]

theorem exists_of_readExponent {letter : Char} (hletter : letter = 'e' ∨ letter = 'E')
    (h : readExponent positive significand power cursor = .ok (value, next)) :
    ∃ exponent : Exponent, letter :: cursor.rest = exponent.text ++ next.rest ∧
      scaled? positive significand power (some exponent) = some value := by
  unfold readExponent at h
  split at h
  · rename_i rest hrest
    obtain ⟨digits, hdigits, hdrop, hvalue⟩ := exists_of_readPower h
    exact ⟨⟨letter, some '+', digits, hletter, .inr (.inl rfl), hdigits⟩,
      by rw [hrest, show rest = digits ++ next.rest from hdrop]; rfl, hvalue⟩
  · rename_i rest hrest
    obtain ⟨digits, hdigits, hdrop, hvalue⟩ := exists_of_readPower h
    exact ⟨⟨letter, some '-', digits, hletter, .inr (.inr rfl), hdigits⟩,
      by rw [hrest, show rest = digits ++ next.rest from hdrop]; rfl, hvalue⟩
  · obtain ⟨digits, hdigits, hrest, hvalue⟩ := exists_of_readPower h
    exact ⟨⟨letter, none, digits, hletter, .inl rfl, hdigits⟩, by rw [hrest]; rfl, hvalue⟩

theorem readScaled_of_stops (h : Stops more) (column : Nat) :
    readScaled positive significand power ⟨more, column⟩ = finishReal positive significand power ⟨more, column⟩ := by
  unfold readScaled
  split
  · rename_i rest hrest
    exact absurd rfl (h 'e' (Option.mem_def.mpr (congrArg List.head? hrest))).2.1
  · rename_i rest hrest
    exact absurd rfl (h 'E' (Option.mem_def.mpr (congrArg List.head? hrest))).2.2
  · rfl

theorem answers_readScaled (exponent : Option Exponent) (hmore : Ends more) :
    Answers (readScaled positive significand power) (exponent.elim [] Exponent.text)
      (scaled? positive significand power exponent) more := by
  intro column
  cases exponent with
  | none =>
    rw [Option.elim_none, List.nil_append, readScaled_of_stops hmore.2]
    exact answers_finishReal column
  | some exponent => exact answers_letter (fun _ _ => rfl) (fun _ _ => rfl) exponent hmore.1 column

theorem exists_of_readScaled (h : readScaled positive significand power cursor = .ok (value, next)) :
    ∃ exponent : Option Exponent, cursor.rest = exponent.elim [] Exponent.text ++ next.rest ∧
      scaled? positive significand power exponent = some value := by
  unfold readScaled at h
  split at h
  · rename_i rest hrest
    obtain ⟨exponent, htext, hvalue⟩ := exists_of_readExponent (.inl rfl) h
    exact ⟨some exponent, hrest.trans htext, hvalue⟩
  · rename_i rest hrest
    obtain ⟨exponent, htext, hvalue⟩ := exists_of_readExponent (.inr rfl) h
    exact ⟨some exponent, hrest.trans htext, hvalue⟩
  · obtain ⟨hvalue, hnext⟩ := answers_finishReal.eq_some (List.nil_append _).symm h
    exact ⟨none, hnext.symm, hvalue⟩

theorem noDigit_exponent (exponent : Option Exponent) (hmore : Ends more) :
    NoDigit (exponent.elim [] Exponent.text ++ more) := by
  cases exponent with
  | none => exact hmore.1
  | some exponent =>
    intro c hc
    obtain rfl : exponent.letter = c := Option.some.inj hc
    rcases exponent.letter_eq with hletter | hletter
    · rw [hletter]
      exact Bool.false_ne_true
    · rw [hletter]
      exact Bool.false_ne_true

/-- Reading the digits after the point, before anything that is no digit. -/
theorem readFraction_digits (h : IsDigits digits) (hmore : NoDigit more) (column : Nat) :
    readFraction positive significand power ⟨digits ++ more, column⟩ =
      readScaled positive (gather significand 0 digits).1 (power - (gather significand 0 digits).2)
        ⟨more, column + digits.length⟩ := by
  have hcount := digitCount_append h.2 hmore
  have hne : digits.length ≠ 0 := fun hzero => h.1 (List.length_eq_zero_iff.mp hzero)
  simp only [readFraction, hcount, hne, if_false, gather_append h.2 hmore, pastDigits_append]

theorem answers_readFraction (h : IsDigits digits) (exponent : Option Exponent) (hmore : Ends more) :
    Answers (readFraction positive significand power) (digits ++ exponent.elim [] Exponent.text)
      (fractional? positive significand power digits exponent) more := fun column => by
  rw [List.append_assoc, readFraction_digits h (noDigit_exponent exponent hmore)]
  exact answers_readScaled exponent hmore _

theorem exists_of_readFraction (h : readFraction positive significand power cursor = .ok (value, next)) :
    ∃ (digits : List Char) (exponent : Option Exponent), IsDigits digits ∧
      cursor.rest = digits ++ exponent.elim [] Exponent.text ++ next.rest ∧
      fractional? positive significand power digits exponent = some value := by
  obtain ⟨rest, column⟩ := cursor
  obtain ⟨digits, more, rfl, hdigits, hmore⟩ := exists_front Char.isDigit rest
  by_cases hnil : digits = []
  · have hcount : digitCount (digits ++ more) = 0 := by rw [digitCount_append hdigits hmore, hnil, List.length_nil]
    rw [readFraction, hcount] at h
    cases h
  · rw [readFraction_digits ⟨hnil, hdigits⟩ hmore] at h
    obtain ⟨exponent, hrest, hvalue⟩ := exists_of_readScaled h
    refine ⟨digits, exponent, ⟨hnil, hdigits⟩, ?_, hvalue⟩
    rw [List.append_assoc, ← hrest]

/-- A number without point and exponent. -/
theorem answers_plain {dropped : Nat} (h : Stops more) :
    Answers (readAfterWhole positive significand dropped) [] (completed? positive significand dropped none none)
      more := by
  intro column
  unfold readAfterWhole completed?
  rw [List.nil_append]
  split
  · rename_i rest hrest
    exact absurd rfl (h '.' (Option.mem_def.mpr (congrArg List.head? hrest))).1
  · rename_i rest hrest
    exact absurd rfl (h 'e' (Option.mem_def.mpr (congrArg List.head? hrest))).2.1
  · rename_i rest hrest
    exact absurd rfl (h 'E' (Option.mem_def.mpr (congrArg List.head? hrest))).2.2
  · by_cases hdropped : dropped = 0
    · rw [if_pos hdropped, if_pos hdropped]
      refine ⟨column, ?_⟩
      dsimp only
      generalize (if positive then (significand : Int) else -significand) = whole
      cases positive || decide (significand ≠ 0) && decide (leastWhole ≤ whole) with
      | false => rfl
      | true => rfl
    · rw [if_neg hdropped, if_neg hdropped]
      exact answers_finishReal column

theorem answers_readAfterWhole {dropped : Nat} {fraction : Option (List Char)}
    (hfraction : ∀ digits ∈ fraction, IsDigits digits) (exponent : Option Exponent) (hmore : Ends more) :
    Answers (readAfterWhole positive significand dropped) (afterWhole fraction exponent)
      (completed? positive significand dropped fraction exponent) more := by
  intro column
  cases fraction with
  | some digits => exact answers_readFraction (hfraction digits rfl) exponent hmore (column + 1)
  | none =>
    cases exponent with
    | none => exact answers_plain hmore.2 column
    | some exponent => exact answers_letter (fun _ _ => rfl) (fun _ _ => rfl) exponent hmore.1 column

theorem exists_of_readAfterWhole {dropped : Nat}
    (h : readAfterWhole positive significand dropped cursor = .ok (value, next)) :
    ∃ (fraction : Option (List Char)) (exponent : Option Exponent), (∀ digits ∈ fraction, IsDigits digits) ∧
      cursor.rest = afterWhole fraction exponent ++ next.rest ∧
      completed? positive significand dropped fraction exponent = some value := by
  by_cases hstops : Stops cursor.rest
  · obtain ⟨hvalue, hnext⟩ := (answers_plain hstops).eq_some (List.nil_append _).symm h
    exact ⟨none, none, by simp, hnext.symm, hvalue⟩
  · unfold readAfterWhole at h
    split at h
    · rename_i rest hrest
      obtain ⟨digits, exponent, hdigits, htext, hvalue⟩ := exists_of_readFraction h
      refine ⟨some digits, exponent, fun _ hsome => Option.some.inj hsome ▸ hdigits, ?_, hvalue⟩
      rw [hrest, show rest = _ from htext]
      rfl
    · rename_i rest hrest
      obtain ⟨exponent, htext, hvalue⟩ := exists_of_readExponent (.inl rfl) h
      exact ⟨none, some exponent, by simp, hrest.trans htext, hvalue⟩
    · rename_i rest hrest
      obtain ⟨exponent, htext, hvalue⟩ := exists_of_readExponent (.inr rfl) h
      exact ⟨none, some exponent, by simp, hrest.trans htext, hvalue⟩
    · rename_i hpoint hlower hupper
      refine absurd (fun c hc => ?_) hstops
      obtain ⟨rest, hrest⟩ := List.head?_eq_some_iff.mp (Option.mem_def.mp hc)
      exact ⟨fun heq => hpoint rest (heq ▸ hrest), fun heq => hlower rest (heq ▸ hrest),
        fun heq => hupper rest (heq ▸ hrest)⟩

theorem noDigit_afterWhole (fraction : Option (List Char)) (exponent : Option Exponent) (hmore : Ends more) :
    NoDigit (afterWhole fraction exponent ++ more) := by
  cases fraction with
  | none => exact noDigit_exponent exponent hmore
  | some digits =>
    intro c hc
    obtain rfl : '.' = c := Option.some.inj hc
    exact Bool.false_ne_true

/-- Reading the digits of the whole part, before anything that is no digit. -/
theorem readNumber_digits (h : IsDigits digits) (hzero : digits.head? = some '0' → digits = ['0'])
    (hmore : NoDigit more) (column : Nat) :
    readNumber positive ⟨digits ++ more, column⟩ =
      readAfterWhole positive (gather 0 0 digits).1 (digits.length - (gather 0 0 digits).2)
        ⟨more, column + digits.length⟩ := by
  obtain ⟨d, ds, rfl⟩ := List.exists_cons_of_ne_nil h.1
  have hpast := pastDigits_append (d :: ds) more column
  have hgather := gather_append h.2 hmore 0 0
  have hcount := digitCount_append h.2 hmore
  rw [List.cons_append] at hpast hgather hcount
  by_cases hd : d = '0'
  · obtain rfl : ds = [] := (List.cons.inj (hzero (congrArg some hd))).2
    have hhead : more.head?.any Char.isDigit = false := by
      cases more with
      | nil => rfl
      | cons c more => exact Bool.eq_false_iff.mpr (hmore c rfl)
    subst hd
    simp only [readNumber, List.cons_append, List.nil_append, hhead, if_true, Bool.false_eq_true, if_false]
    rfl
  · have hdigit : d.isDigit := h.2 d List.mem_cons_self
    simp only [readNumber, List.cons_append, hd, if_false, hdigit, if_true, hcount, hgather, hpast]

/-- The reader of numbers reads a number to its end. -/
theorem Numeral.answers (numeral : Numeral) (hmore : Ends more) :
    Answers (readNumber numeral.positive) numeral.unsigned numeral.value? more := fun column => by
  rw [unsigned, List.append_assoc,
    readNumber_digits numeral.isDigits_whole numeral.head_whole (noDigit_afterWhole _ _ hmore)]
  exact answers_readAfterWhole numeral.isDigits_fraction numeral.exponent hmore _

/-- The reader of numbers reads nothing but numbers. -/
theorem exists_numeral (h : readNumber positive cursor = .ok (value, next)) :
    ∃ numeral : Numeral, numeral.positive = positive ∧ cursor.rest = numeral.unsigned ++ next.rest ∧
      numeral.value? = some value := by
  obtain ⟨rest, column⟩ := cursor
  obtain ⟨digits, more, rfl, hall, hmore⟩ := exists_front Char.isDigit rest
  have hfirst : digits ≠ [] ∧ (digits.head? = some '0' → digits = ['0']) := by
    cases digits with
    | nil =>
      cases more with
      | nil => cases h
      | cons c more =>
        have hc : c ≠ '0' := by
          rintro rfl
          exact hmore '0' rfl rfl
        simp [readNumber, hc, hmore c rfl] at h
    | cons d ds =>
      refine ⟨List.cons_ne_nil d ds, fun hzero => ?_⟩
      obtain rfl : d = '0' := Option.some.inj hzero
      cases ds with
      | nil => rfl
      | cons e ds =>
        have he : e.isDigit := hall e (by simp)
        simp [readNumber, he] at h
  have hdigits : IsDigits digits := ⟨hfirst.1, hall⟩
  rw [readNumber_digits hdigits hfirst.2 hmore] at h
  obtain ⟨fraction, exponent, hfraction, hrest, hvalue⟩ := exists_of_readAfterWhole h
  refine ⟨⟨positive, digits, fraction, exponent, hdigits, hfirst.2, hfraction⟩, rfl, ?_, hvalue⟩
  rw [Numeral.unsigned, List.append_assoc, ← hrest]

/-! ## What it can stand for -/

theorem real?_eq_some (h : real? positive significand power = some value) : ∃ bits, value = .real bits := by
  obtain ⟨found, -, rfl⟩ := Option.map_eq_some_iff.mp h
  exact ⟨_, rfl⟩

theorem scaled?_eq_some {exponent : Option Exponent} (h : scaled? positive significand power exponent = some value) :
    ∃ bits, value = .real bits := by
  cases exponent with
  | none => exact real?_eq_some h
  | some exponent =>
    rw [scaled?, raised?] at h
    split at h
    · split at h
      · cases h
      · cases h
        exact ⟨_, rfl⟩
    · exact real?_eq_some h

/-- A number stands for a whole number or a double. -/
theorem Numeral.value?_eq_some {numeral : Numeral} (h : numeral.value? = some value) :
    (∃ n, value = .whole n) ∨ ∃ bits, value = .real bits := by
  rw [value?] at h
  dsimp only at h
  unfold completed? at h
  split at h
  · exact .inr (scaled?_eq_some h)
  · exact .inr (scaled?_eq_some h)
  · split at h
    · dsimp only at h
      generalize (if numeral.positive then _ else _ : Int) = whole at h
      split at h
      · exact .inl ⟨_, (Option.some.inj h).symm⟩
      · exact .inr ⟨_, (Option.some.inj h).symm⟩
    · exact .inr (real?_eq_some h)

end GoldenBench.Json
