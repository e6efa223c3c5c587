import GoldenBench.Json.Reader

/-!
# Quoted texts as they are written

Between quotes a character stands for itself or is written as an escape (`EscapeSpelt`): by a letter, by four
hexadecimal digits or, beyond the first plane, by two escapes of that kind. `TextSpelt` is what the whole of a text may
be written as.

* `reads_readQuoted`: the reader of quoted texts reads such a text up to its closing quote.
* `exists_of_readQuoted`: it reads nothing else.
-/

namespace GoldenBench.Json

/-- Four hexadecimal digits for a number. -/
def HexSpelt (digits : List Char) (n : Nat) : Prop :=
  ∃ a b c d, digits.mapM hexValue? = some [a, b, c, d] ∧ n = ((a * 16 + b) * 16 + c) * 16 + d

/-- The letters that may follow a backslash, and the characters that they stand for. -/
def letterEscapes : List (Char × Char) :=
  [('"', '"'), ('\\', '\\'), ('/', '/'), ('b', '\x08'), ('f', '\x0c'), ('n', '\n'), ('r', '\r'), ('t', '\t')]

/-- What may follow a backslash, and the character that it stands for. -/
inductive EscapeSpelt : List Char → Char → Prop where
  /-- A letter. -/
  | letter {letter c : Char} (h : (letter, c) ∈ letterEscapes) : EscapeSpelt [letter] c
  /-- The number of a character that is no half of a pair. -/
  | code {digits : List Char} {n : Nat} (h : HexSpelt digits n) (hn : n < 0xD800 ∨ 0xDFFF < n) :
    EscapeSpelt ('u' :: digits) (Char.ofNat n)
  /-- The numbers of the two halves of a pair. -/
  | pair {first second : List Char} {m n : Nat} (hfirst : HexSpelt first m) (hm : 0xD800 ≤ m ∧ m ≤ 0xDBFF)
      (hsecond : HexSpelt second n) (hn : 0xDC00 ≤ n ∧ n ≤ 0xDFFF) :
    EscapeSpelt ('u' :: (first ++ '\\' :: 'u' :: second))
      (Char.ofNat ((m - 0xD800) * 0x400 + (n - 0xDC00) + 0x10000))

/-- What may stand between quotes, and the text that it stands for. -/
inductive TextSpelt : List Char → List Char → Prop where
  /-- Nothing. -/
  | nil : TextSpelt [] []
  /-- A character that stands for itself, before more. -/
  | plain {c : Char} {spelling text : List Char} (hquote : c ≠ '"') (hslash : c ≠ '\\') (hcontrol : ¬c.toNat < 0x20)
      (h : TextSpelt spelling text) : TextSpelt (c :: spelling) (c :: text)
  /-- An escape, before more. -/
  | escape {c : Char} {escape spelling text : List Char} (hescape : EscapeSpelt escape c)
      (h : TextSpelt spelling text) : TextSpelt ('\\' :: (escape ++ spelling)) (c :: text)

/-- A reader gives a value for a text and leaves `more`, wherever it stands. -/
def Reads {α : Type} (read : Cursor → Except Error (α × Cursor)) (text : List Char) (value : α) (more : List Char) :
    Prop :=
  ∀ column, ∃ left, read ⟨text ++ more, column⟩ = .ok (value, ⟨more, left⟩)

variable {digits escape spelling text more : List Char} {n : Nat} {c : Char} {cursor next : Cursor}

/-- A step that goes well was preceded by one that goes well. -/
theorem exists_of_bind {α β : Type} {step : Except Error α} {next : α → Except Error β} {b : β}
    (h : step >>= next = .ok b) : ∃ a, step = .ok a ∧ next a = .ok b := by
  cases step with
  | error error => cases h
  | ok a => exact ⟨a, rfl, h⟩

theorem length_of_mapM_hexValue? {values : List Nat} (h : digits.mapM hexValue? = some values) :
    values.length = digits.length := by
  induction digits generalizing values with
  | nil =>
    cases h
    rfl
  | cons c digits ih =>
    simp only [List.mapM_cons, Option.bind_eq_bind, Option.bind_eq_some_iff, Option.pure_def, Option.some.injEq] at h
    obtain ⟨value, -, others, hothers, rfl⟩ := h
    rw [List.length_cons, List.length_cons, ih hothers]

theorem HexSpelt.length_eq (h : HexSpelt digits n) : digits.length = 4 := by
  obtain ⟨a, b, c, d, hdigits, -⟩ := h
  exact (length_of_mapM_hexValue? hdigits).symm

theorem reads_readHex (h : HexSpelt digits n) : Reads readHex digits n more := fun column => by
  have hlength := h.length_eq
  obtain ⟨a, b, c, d, hdigits, rfl⟩ := h
  refine ⟨column + 4, ?_⟩
  simp only [readHex, List.take_left' hlength, List.drop_left' hlength, hdigits]

theorem exists_of_readHex (h : readHex cursor = .ok (n, next)) :
    ∃ digits, HexSpelt digits n ∧ cursor.rest = digits ++ next.rest := by
  unfold readHex at h
  split at h
  · rename_i a b c d hdigits
    cases h
    exact ⟨cursor.rest.take 4, ⟨a, b, c, d, hdigits, rfl⟩, (List.take_append_drop 4 _).symm⟩
  · split at h
    · cases h
    · cases h

theorem rest_of_readPairMark (h : readPairMark cursor c = .ok next) : cursor.rest = c :: next.rest := by
  unfold readPairMark at h
  split at h
  · cases h
  · rename_i found rest hrest
    split at h
    · rename_i hfound
      cases h
      rw [hrest, hfound]
      rfl
    · cases h

theorem reads_readUnicode (h : EscapeSpelt ('u' :: digits) c) : Reads readUnicode digits c more := by
  intro column
  generalize hmarked : 'u' :: digits = marked at h
  cases h with
  | letter h =>
    obtain ⟨rfl, -⟩ := List.cons.inj hmarked
    simp [letterEscapes] at h
  | @code _ n h hn =>
    obtain ⟨-, rfl⟩ := List.cons.inj hmarked
    have hhex : Reads readHex _ _ more := reads_readHex h
    obtain ⟨left, hread⟩ := hhex column
    have hhalf : ¬(0xDC00 ≤ n ∧ n ≤ 0xDFFF) := by omega
    have hcode : n < 0xD800 ∨ 0xDBFF < n := by omega
    refine ⟨left, ?_⟩
    simp only [readUnicode, hread, bind, Except.bind, hhalf, if_false, hcode, if_true]
    rfl
  | @pair first second m n hfirst hm hsecond hn =>
    obtain ⟨-, rfl⟩ := List.cons.inj hmarked
    have hhexFirst : Reads readHex _ _ ('\\' :: 'u' :: (second ++ more)) := reads_readHex hfirst
    have hhexSecond : Reads readHex _ _ more := reads_readHex hsecond
    obtain ⟨afterFirst, hreadFirst⟩ := hhexFirst column
    obtain ⟨left, hreadSecond⟩ := hhexSecond (afterFirst + 1 + 1)
    have hhalf : ¬(0xDC00 ≤ m ∧ m ≤ 0xDFFF) := by omega
    have hcode : ¬(m < 0xD800 ∨ 0xDBFF < m) := by omega
    have hother : ¬(n < 0xDC00 ∨ 0xDFFF < n) := by omega
    refine ⟨left, ?_⟩
    have hslash : ∀ rest, readPairMark ⟨'\\' :: 'u' :: rest, afterFirst⟩ '\\' = .ok ⟨'u' :: rest, afterFirst + 1⟩ :=
      fun _ => rfl
    have hmark : ∀ rest, readPairMark ⟨'u' :: rest, afterFirst + 1⟩ 'u' = .ok ⟨rest, afterFirst + 1 + 1⟩ := fun _ => rfl
    simp only [List.append_assoc, List.cons_append, readUnicode, hreadFirst, bind, Except.bind, hhalf, if_false, hcode,
      hslash, hmark, hreadSecond, hother]
    rfl

theorem exists_of_readUnicode (h : readUnicode cursor = .ok (c, next)) :
    ∃ digits, EscapeSpelt ('u' :: digits) c ∧ cursor.rest = digits ++ next.rest := by
  obtain ⟨⟨m, afterFirst⟩, hfirst, h⟩ := exists_of_bind h
  obtain ⟨first, hspelt, hrest⟩ := exists_of_readHex hfirst
  dsimp only at h
  split at h
  · cases h
  · split at h
    · rename_i hhalf hcode
      cases h
      exact ⟨first, .code hspelt (by omega), hrest⟩
    · rename_i hhalf hcode
      obtain ⟨afterSlash, hslash, h⟩ := exists_of_bind h
      obtain ⟨afterMark, hmark, h⟩ := exists_of_bind h
      obtain ⟨⟨n, afterSecond⟩, hsecond, h⟩ := exists_of_bind h
      obtain ⟨second, hspelt', hrest'⟩ := exists_of_readHex hsecond
      dsimp only at h
      split at h
      · cases h
      · rename_i hn
        obtain ⟨hc, rfl⟩ := Prod.mk.inj (Except.ok.inj h)
        rw [← hc]
        refine ⟨_, .pair hspelt (by omega) hspelt' (by omega), ?_⟩
        rw [hrest, rest_of_readPairMark hslash, rest_of_readPairMark hmark, hrest']
        simp only [List.append_assoc, List.cons_append]

theorem reads_readEscape (h : EscapeSpelt escape c) : Reads readEscape escape c more := by
  intro column
  have hunicode : ∀ digits, escape = 'u' :: digits → ∃ left,
      readEscape ⟨escape ++ more, column⟩ = .ok (c, ⟨more, left⟩) := by
    rintro digits rfl
    exact reads_readUnicode h (column + 1)
  cases h with
  | letter h =>
    simp only [letterEscapes, List.mem_cons, Prod.mk.injEq, List.not_mem_nil, or_false] at h
    rcases h with ⟨rfl, rfl⟩ | ⟨rfl, rfl⟩ | ⟨rfl, rfl⟩ | ⟨rfl, rfl⟩ | ⟨rfl, rfl⟩ | ⟨rfl, rfl⟩ | ⟨rfl, rfl⟩ | ⟨rfl, rfl⟩
    all_goals exact ⟨column + 1, rfl⟩
  | code h hn => exact hunicode _ rfl
  | pair hfirst hm hsecond hn => exact hunicode _ rfl

theorem exists_of_readEscape (h : readEscape cursor = .ok (c, next)) :
    ∃ escape, EscapeSpelt escape c ∧ cursor.rest = escape ++ next.rest := by
  unfold readEscape at h
  split at h
  · cases h
  · rename_i letter rest hrest
    rw [hrest]
    dsimp only at h
    split at h
    case h_9 =>
      obtain ⟨digits, hspelt, hdigits⟩ := exists_of_readUnicode h
      exact ⟨_, hspelt, congrArg ('u' :: ·) hdigits⟩
    case h_10 => cases h
    all_goals
      cases h
      exact ⟨[_], .letter (by simp [letterEscapes]), rfl⟩

theorem readText_plain (hquote : c ≠ '"') (hslash : c ≠ '\\') (hcontrol : ¬c.toNat < 0x20) (fuel : Nat)
    (held rest : List Char) (column : Nat) :
    readText (fuel + 1) held ⟨c :: rest, column⟩ = readText fuel (c :: held) ⟨rest, column + c.utf8Size⟩ := by
  conv => lhs; unfold readText
  dsimp only
  split
  · exact absurd rfl hquote
  · exact absurd rfl hslash
  · rw [if_neg hcontrol]
    rfl

theorem readText_escape (fuel : Nat) (held rest : List Char) (column : Nat) :
    readText (fuel + 1) held ⟨'\\' :: rest, column⟩ =
      (readEscape ⟨rest, column + 1⟩ >>= fun read => readText fuel (read.1 :: held) read.2) := rfl

/-- The induction is on what is written; every character of the text takes one of it at least. -/
theorem reads_readText (h : TextSpelt spelling text) {fuel : Nat} (hfuel : spelling.length < fuel) (held : List Char) :
    Reads (readText fuel held) (spelling ++ ['"']) (held.reverse ++ text) more := by
  induction h generalizing fuel held with
  | nil =>
    intro column
    obtain ⟨fuel, rfl⟩ := Nat.exists_eq_add_one_of_ne_zero (Nat.ne_zero_of_lt hfuel)
    rw [List.append_nil]
    exact ⟨column + 1, rfl⟩
  | @plain c spelling text hquote hslash hcontrol h ih =>
    intro column
    obtain ⟨fuel, rfl⟩ := Nat.exists_eq_add_one_of_ne_zero (Nat.ne_zero_of_lt hfuel)
    obtain ⟨left, hread⟩ := ih (Nat.lt_of_succ_lt_succ hfuel) (c :: held) (column + c.utf8Size)
    refine ⟨left, ?_⟩
    rw [List.cons_append, List.cons_append, readText_plain hquote hslash hcontrol, hread]
    simp
  | @escape c escape spelling text hescape h ih =>
    intro column
    obtain ⟨fuel, rfl⟩ := Nat.exists_eq_add_one_of_ne_zero (Nat.ne_zero_of_lt hfuel)
    have hlength : spelling.length < fuel := by
      simp only [List.length_cons, List.length_append] at hfuel
      omega
    have hescaped : Reads readEscape escape c (spelling ++ ['"'] ++ more) := reads_readEscape hescape
    obtain ⟨afterEscape, hreadEscape⟩ := hescaped (column + 1)
    obtain ⟨left, hread⟩ := ih hlength (c :: held) afterEscape
    refine ⟨left, ?_⟩
    rw [List.append_assoc] at hreadEscape hread
    rw [List.cons_append, List.cons_append, List.append_assoc, List.append_assoc, readText_escape, hreadEscape]
    refine hread.trans ?_
    simp

theorem exists_of_readText {fuel : Nat} {held found : List Char} (h : readText fuel held cursor = .ok (found, next)) :
    ∃ spelling text, TextSpelt spelling text ∧ found = held.reverse ++ text ∧
      cursor.rest = spelling ++ '"' :: next.rest := by
  induction fuel generalizing held cursor with
  | zero =>
    unfold readText at h
    split at h
    · cases h
    · cases h
    · rename_i heq _
      cases heq
  | succ fuel ih =>
    unfold readText at h
    split at h
    · cases h
    · rename_i heq _
      cases heq
    · rename_i fuel' c rest heq hrest
      cases heq
      dsimp only at h
      split at h
      · cases h
        refine ⟨[], [], .nil, (List.append_nil _).symm, hrest⟩
      · obtain ⟨⟨c, afterEscape⟩, hescape, h⟩ := exists_of_bind h
        obtain ⟨escape, hspelt, hescaped⟩ := exists_of_readEscape hescape
        obtain ⟨spelling, text, htext, rfl, hend⟩ := ih h
        refine ⟨_, _, .escape hspelt htext, ?_, ?_⟩
        · simp
        · rw [hrest, show rest = _ from hescaped, hend]
          simp
      · rename_i hquote hslash
        split at h
        · cases h
        · rename_i hcontrol
          obtain ⟨spelling, text, htext, rfl, hend⟩ := ih h
          refine ⟨_, _, .plain hquote hslash hcontrol htext, ?_, ?_⟩
          · simp
          · rw [hrest, show rest = _ from hend]
            rfl

/-- A text as it stands in a document. -/
def IsQuoted (value : String) (text : List Char) : Prop :=
  ∃ inner, text = '"' :: (inner ++ ['"']) ∧ TextSpelt inner value.toList

theorem reads_readQuoted {value : String} (h : TextSpelt text value.toList) :
    Reads readQuoted (text ++ ['"']) value more := fun column => by
  have hfuel : text.length < (text ++ ['"'] ++ more).length := by simp
  have hread : Reads (readText _ []) (text ++ ['"']) ([].reverse ++ value.toList) more := reads_readText h hfuel []
  obtain ⟨left, hread⟩ := hread column
  refine ⟨left, ?_⟩
  rw [readQuoted, hread]
  exact congrArg (fun read => Except.ok (read, _)) String.ofList_toList

theorem exists_of_readQuoted {value : String} (h : readQuoted cursor = .ok (value, next)) :
    ∃ inner, TextSpelt inner value.toList ∧ cursor.rest = inner ++ '"' :: next.rest := by
  obtain ⟨⟨found, after⟩, hread, h⟩ := exists_of_bind h
  cases h
  obtain ⟨inner, text, htext, rfl, hrest⟩ := exists_of_readText hread
  exact ⟨inner, by simpa using htext, hrest⟩

end GoldenBench.Json
